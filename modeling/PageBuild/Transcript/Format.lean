import PageBuild.Transcript.Ecj
import PageBuild.Transcript.Javac

/-! The formats of transcripts, and reading them. The only fault is a line number of too many
digits; any other text is read. -/
namespace PageBuild.Transcript

inductive Format
  | javac
  | ecj
  deriving DecidableEq, Repr

def Format.role : Format → List Char → Except Text.LongNumeral Role
  | .javac => Javac.role
  | .ecj => Ecj.role

def parse (format : Format) (s : String) : Except Text.LongNumeral (List Diagnostic) := do
  let lines ← (linesOf s.toList).mapM fun line => do return (line, ← format.role line)
  return collect lines

end PageBuild.Transcript
