import PageBuild.Text.Blank
import PageBuild.Text.LowerCase

/-! Diagnostics: what a compiler says about a source, one complaint at a time. -/
namespace PageBuild

/-- The kinds of diagnostics; `other` stands for any kind that is not known. -/
inductive Kind
  | error
  | warning
  | mandatoryWarning
  | note
  | other
  deriving DecidableEq, Repr

namespace Kind

def name : Kind → String
  | .error => "error"
  | .warning => "warning"
  | .mandatoryWarning => "mandatory_warning"
  | .note => "note"
  | .other => "other"

def all : List Kind := [.error, .warning, .mandatoryWarning, .note, .other]

/-- The kind that a tool names, whatever the case and with spaces for underscores. -/
def ofText (s : String) : Kind :=
  let plain := (Text.lower (Text.strip s)).toList.map fun c => if c = ' ' then '_' else c
  (all.find? fun kind => kind.name.toList = plain).getD .other

end Kind

structure Diagnostic where
  kind : Kind
  message : String
  source : Option String := none
  line : Option Int := none
  column : Option Int := none
  deriving DecidableEq, Repr

def Diagnostic.isError (d : Diagnostic) : Bool := d.kind = .error

end PageBuild
