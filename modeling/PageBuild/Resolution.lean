import PageBuild.Diagnostic
import PageBuild.Messages
import PageBuild.PageTree

/-! Resolution of compile errors: from the generated line that a compiler names to the line of the
page it came from. The line map of the generated file comes first, then the page tree; where there
is neither, the generated line stands for itself. An error that cannot be resolved is skipped. -/
namespace PageBuild

structure Metadata where
  lineMaps : Option LineMaps := none
  page : Option PageTree := none
  deriving Repr

/-- The line map of a generated file: the one under its path, or else the first whose name or whose
generated file has the same base name. -/
def LineMaps.find? (maps : LineMaps) (source : String) : Option (String × LineMap) :=
  match Json.find? maps source with
  | some m => some (source, m)
  | none =>
    let base (path : String) : String := (PathName.ofText path).name
    List.find? (fun (key, m) => base key = base source || base m.generatedFile = base source) maps

namespace Metadata

def isEmpty (data : Metadata) : Bool := (data.lineMaps.getD []).isEmpty && data.page.isNone

def byLineMap (data : Metadata) (source : String) (line : Int) :
    Except UnknownFile (Option TemplateLine) :=
  match (data.lineMaps.getD []).find? source with
  | none => .ok none
  | some (_, m) => m.resolve line

def byPage (data : Metadata) (line : Int) : Option PageSpan :=
  ((data.page.getD {}).find? line).map (·.span)

def incomplete (messages : Messages) (d : Diagnostic) : Except Failure ErrorDetail := do
  let message ← messages.say .diagnosticIncomplete [.text d.message]
  throw (.fault {
    kind := .unresolved, message, code := some "DIAGNOSTIC_INCOMPLETE"
    facts := [
      ("source", .json ((d.source.map Json.str).getD .null)),
      ("line", .json ((d.line.map Json.int).getD .null))] })

def unmapped (messages : Messages) (source : String) (line : Int) :
    Except Failure ErrorDetail := do
  let message ← messages.say .lineUnmapped [.text source, .int line]
  throw (.fault {
    kind := .unresolved, message, code := some "LINE_UNMAPPED"
    facts := [("source", .text source), ("line", .int line)] })

/-- The error of a line of a generated file, resolved by line map and then by page tree. -/
def resolveAt (data : Metadata) (messages : Messages) (source : String) (line : Int)
    (message : String) : Except Failure ErrorDetail :=
  let detail (file : String) (n : Int) : ErrorDetail :=
    { source := file, line := n, message, generatedFile := some source, generatedLine := some line }
  if data.isEmpty then .ok (detail source line)
  else match data.byLineMap source line with
    | .error _ => .error .key
    | .ok (some found) => .ok (detail found.file found.line)
    | .ok none => match data.byPage line with
      | some span => .ok (detail span.source (span.templateLine line))
      | none => unmapped messages source line

def resolve (data : Metadata) (messages : Messages) (d : Diagnostic) :
    Except Failure ErrorDetail :=
  match d.source, d.line with
  | some source, some line =>
    if line < 1 then incomplete messages d else data.resolveAt messages source line d.message
  | _, _ => incomplete messages d

end Metadata

inductive Finding
  | detail (d : ErrorDetail)
  | skipped (message : String)
  deriving DecidableEq, Repr

namespace Finding

def detail? : Finding → Option ErrorDetail
  | .detail d => some d
  | .skipped _ => none

def warning? : Finding → Option String
  | .detail _ => none
  | .skipped message => some s!"Skipping compiler error: {message}"

end Finding

namespace Metadata

def finding (data : Metadata) (messages : Messages) (d : Diagnostic) : Except Failure Finding :=
  match data.resolve messages d with
  | .ok detail => .ok (.detail detail)
  | .error (.fault f) =>
    if f.kind = .unresolved then .ok (.skipped f.message) else .error (.fault f)
  | .error e => .error e

/-- What becomes of the errors among diagnostics, in their order, up to the first failure. -/
def findings (data : Metadata) (messages : Messages) :
    List Diagnostic → List Finding × Option Failure
  | [] => ([], none)
  | d :: rest =>
    if d.isError then
      match data.finding messages d with
      | .error e => ([], some e)
      | .ok found =>
        let (more, failure) := findings data messages rest
        (found :: more, failure)
    else findings data messages rest

end Metadata
end PageBuild
