import PageBuild.Json
import PageBuild.Number.Decimal

/-! Error details: a compile error at a line of a page, with the generated line it was found at. -/
namespace PageBuild

structure ErrorDetail where
  source : String
  line : Int
  message : String
  generatedFile : Option String := none
  generatedLine : Option Int := none
  deriving DecidableEq, Repr

namespace ErrorDetail

def text (d : ErrorDetail) : Except Decimal.Overlong String := do
  return s!"{d.source}:{← Decimal.written d.line}: {d.message}"

/-- What is passed on about an error: the generated line is left out. -/
def json (d : ErrorDetail) : Json :=
  .obj [("source_name", .str d.source), ("line", .int d.line), ("message", .str d.message)]

end ErrorDetail
end PageBuild
