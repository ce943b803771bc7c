import PageBuild.Context
import PageBuild.PageTree
import PageBuild.Session

/-! Configuration files: JSON documents that are read for a model. What can go wrong is told apart
by a code: the file is missing, it cannot be read, it is no JSON, or the model refuses it. -/
namespace PageBuild.Documents

def missing (path : String) : Fault :=
  { kind := .file, message := s!"JSON file not found: {path}", code := some "FILE_NOT_FOUND"
    facts := [("file_path", .text path)] }

def unreadable (path : String) (e : OsError) : Fault :=
  { kind := .file, message := s!"Failed to read file {path}: {e.message}"
    code := some "FILE_READ_ERROR"
    facts := [("file_path", .text path), ("os_error", .text e.message)] }

def malformed (path mistake : String) : Fault :=
  { kind := .file, message := s!"Invalid JSON in file {path}: {mistake}", code := some "INVALID_JSON"
    facts := [("file_path", .text path), ("json_error", .text mistake)] }

def rejected (path : String) (r : Schema.Report) : Fault :=
  { kind := .file, message := s!"Invalid configuration in {path}: {r.message}"
    code := some "INVALID_CONFIGURATION"
    facts := [("file_path", .text path), ("validation_errors", .issues r.issues)] }

/-- The text of a file, with one kind of line end. -/
def textOf (files : FileTree) (path : String) : Except Failure (List Char) :=
  match files.contentOf path with
  | .error (.os e) => .error (.fault (unreadable path e))
  | .error (.text e) => .error (.value (.text e))
  | .ok content => match Utf8.decode content with
    | .error e => .error (.undecodable e)
    | .ok s => .ok (Text.unifyLineEnds s)

def parse (path : String) (s : List Char) : Except Failure Json :=
  match Json.read s with
  | .ok j => .ok j
  | .error (.mistake what pos) => .error (.fault (malformed path (what.report s pos)))
  | .error (.numeral e) => .error (.value (.numeral e))
  | .error (.nesting c) => .error (.nesting c)

def document (files : FileTree) (path : String) : Except Failure Json := do
  let path := (PathName.ofText path).text
  match files.exists? path with
  | .error e => throw (.refused e)
  | .ok false => throw (.fault (missing path))
  | .ok true => parse path (← textOf files path)

/-- The value of a model in a file; a refused document is reported under the path as it was given. -/
def model {α : Type} (read : Json → Except Schema.Report α) (files : FileTree) (path : String) :
    Except Failure α := do
  match read (← document files path) with
  | .ok a => return a
  | .error r => throw (.fault (rejected path r))

def context : FileTree → String → Except Failure Context := model Context.read

def lineMaps (files : FileTree) (path : String) : Except Failure LineMaps := do
  match ← document files path with
  | .obj members => (LineMaps.read members).mapError .rejected
  | _ => throw .attribute

def load {α : Type} (from? : FileTree → String → Except Failure α) (path : String) :
    Action α := do
  Session.ofExcept (from? (← get).files path)

end PageBuild.Documents
