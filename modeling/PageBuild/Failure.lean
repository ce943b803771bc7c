import PageBuild.Charset
import PageBuild.ErrorDetail
import PageBuild.FileTree
import PageBuild.Json.Reader
import PageBuild.LineMap
import PageBuild.Template

/-! Failures. A fault is a failure of the build itself, with a code and the facts about it; the
other failures are those of what a build is made of: documents, texts, files and collaborators. -/
namespace PageBuild

inductive FaultKind
  | general
  | unavailable
  | backend
  | cleanup
  | unresolved
  | symbols
  | reported
  | configuration
  | file
  deriving DecidableEq, Repr

namespace FaultKind

def name : FaultKind → String
  | .general => "CompilerException"
  | .unavailable => "BackendUnavailable"
  | .backend => "BackendFault"
  | .cleanup => "CleanupFailed"
  | .unresolved => "TranslationError"
  | .symbols => "SymbolInstallFailed"
  | .reported => "CompilationFailedError"
  | .configuration => "InvalidConfigurationError"
  | .file => "FileOperationError"

def all : List FaultKind := [
  .general, .unavailable, .backend, .cleanup, .unresolved, .symbols, .reported, .configuration,
  .file]

/-- Faults are logged as they arise, but for those that are dealt with where they arise. -/
def isLogged : FaultKind → Bool
  | .cleanup | .unresolved => false
  | _ => true

end FaultKind

inductive Fact
  | json (j : Json)
  | issues (issues : List Schema.Issue)
  deriving Repr

namespace Fact

def text (s : String) : Fact := .json (.str s)

def texts (list : List String) : Fact := .json (.arr (list.map .str))

def int (n : Int) : Fact := .json (.int n)

end Fact

structure Fault where
  kind : FaultKind
  message : String
  code : Option String := none
  facts : List (String × Fact) := []
  /-- The errors that were reported. -/
  errors : List ErrorDetail := []
  deriving Repr

namespace Fault

def logText (f : Fault) : String := s!"{f.kind.name}: {f.message}"

/-- The facts that a kind of fault always has: what is not known about a failed compiler is null,
and reported errors are counted. -/
def ownFacts (kind : FaultKind) (errors : List ErrorDetail) : List (String × Fact) :=
  match kind with
  | .backend => [
    ("command", .json .null), ("return_code", .json .null), ("stderr", .json .null)]
  | .reported => [("error_count", .int errors.length)]
  | _ => []

/-- The names that a fact about a fault may not have: those of its parts, and the count of errors. -/
def reserved (kind : FaultKind) : List String :=
  "message" :: if kind = .reported then ["errors", "error_count"] else []

/-- A fault with given facts beside its own; those of a failed compiler may be given, too. -/
def build? (kind : FaultKind) (message : String) (code : Option String)
    (facts : List (String × Fact)) (errors : List ErrorDetail := []) : Option Fault :=
  if facts.any fun (name, _) => (reserved kind).contains name then none
  else some {
    kind, message, code, errors
    facts := facts.foldl (fun all (name, fact) => Json.put all name fact) (ownFacts kind errors) }

end Fault

inductive ValueFault
  | text (e : TextFault)
  | charset (e : Charset.Fault)
  | template (m : Template.Mistake)
  | numeral (e : Text.LongNumeral)
  | longNumber
  | emptyName (e : LineMap.EmptyName)
  | separator
  | location (name : String)
  | pairLength (index length : Nat)
  | negativeTime
  /-- A time that is no number cannot be waited for. -/
  | noNumber
  /-- The name of a variable holds an equals sign. -/
  | variableName
  deriving DecidableEq, Repr

def ValueFault.message : ValueFault → String
  | .text e => e.message
  | .charset e => e.message
  | .template m => m.message
  | .numeral e => e.message
  | .longNumber => Decimal.Overlong.message {}
  | .emptyName e => e.message
  | .separator => "empty separator"
  | .location name => s!"{Text.quoted name} is not a valid Location"
  | .pairLength index length =>
    s!"dictionary update sequence element \x23{index} has length {length}; 2 is required"
  | .negativeTime => "execution_time cannot be negative"
  | .noNumber => "cannot convert float NaN to integer"
  | .variableName => "illegal environment variable name"

/-- How an operation fails. Five kinds have no text of their own: a value of the wrong type, one
that lacks an attribute, a name that is not there, an empty list, and a number out of range. The
last kind is a document that is nested too deeply. -/
inductive Failure
  | fault (f : Fault)
  | rejected (r : Schema.Report)
  | undecodable (e : Utf8.Invalid)
  | value (v : ValueFault)
  | refused (e : OsError)
  | collaborator (message : String)
  | type
  | attribute
  | key
  | index
  | overflow
  | nesting (c : Json.Container)
  deriving Repr

namespace Failure

def message? : Failure → Option String
  | .fault f => some f.message
  | .rejected r => some r.message
  | .undecodable e => some e.message
  | .value v => some v.message
  | .refused e => some e.message
  | .collaborator message => some message
  | .nesting c => some c.message
  | _ => none

def isAboutValue : Failure → Bool
  | .rejected _ | .undecodable _ | .value _ => true
  | _ => false

def ofNumber (_ : Decimal.Overlong) : Failure := .value .longNumber

def ofPath : PathFault → Failure
  | .os e => .refused e
  | .text e => .value (.text e)

end Failure
end PageBuild
