import PageBuild.Backend
import PageBuild.Dispatch
import PageBuild.Resolution
import PageBuild.SymbolFiles

/-! Compilations: one page source, compiled by a backend. The compiler runs once, and its handle is
closed however that ends. Then the policy of the context applies: the source may be deleted, errors
are resolved and reported, and symbols are installed. -/
namespace PageBuild

structure Outcome where
  errors : List ErrorDetail := []
  options : List String := []
  /-- Why the source is still there although it was to be deleted. -/
  cleanup : Option Fault := none
  sourceDeleted : Bool := false
  symbolsInstalled : Bool := false
  duration : Quantity := .zero
  deriving Repr

namespace Outcome

def success (o : Outcome) : Bool := o.errors.isEmpty

def json (o : Outcome) : Json := .obj [
  ("success", .bool o.success),
  ("errors", .arr (o.errors.map (·.json))),
  ("options", .arr (o.options.map .str)),
  ("cleanup_error", (o.cleanup.map fun f => Json.str f.message).getD .null),
  ("source_deleted", .bool o.sourceDeleted),
  ("symbols_installed", .bool o.symbolsInstalled),
  ("duration_ms", o.duration.json)]

def requireCleanup (o : Outcome) : Except Failure Unit :=
  match o.cleanup with
  | some f => .error (.fault f)
  | none => .ok ()

end Outcome

structure Compilation where
  backend : Backend
  dispatcher : Dispatcher
  installer : Option SymbolInstaller := none
  messages : Messages := {}

namespace Compilation

def enter (stage : Stage) : Action Unit := Session.record (.entered stage)

/-- Runs an action and, however it ends, another one after it. A failure of the last one counts. -/
def andFinally {α : Type} (body : Action α) (last : Action Unit) : Action α := fun s =>
  match body s with
  | .ok a s => match last s with
    | .ok _ s => .ok a s
    | .error e s => .error e s
  | .error e s => match last s with
    | .ok _ s => .error e s
    | .error e s => .error e s

def diagnoseWith (t : Compilation) (c : Context) (h : Handle) :
    Action (List String × List Diagnostic) := do
  enter .options
  let options := t.backend.dialect.options c
  Session.change (FileTree.ensureDirectory c.scratchDir)
  enter .classOutput
  let h ← h.setLocation .classOutput [c.scratchDir]
  enter .classPath
  let h ← h.setLocation .classPath (ClassPath.entries c.classPath)
  enter .compile
  return (options, ← h.compile options [c.sourceFile.text])

/-- The options and the diagnostics of the compiler; its handle is closed. -/
def diagnose (t : Compilation) (c : Context) : Action (List String × List Diagnostic) := do
  enter .acquire
  let h ← t.backend.acquire c.encoding
  andFinally (t.diagnoseWith c h) do
    enter .close
    let _ ← h.close

def notDeleted (t : Compilation) (source : PathName) (e : OsError) : Except Failure Fault := do
  let message ← t.messages.say .sourceDeleteFailed [.path source]
  return {
    kind := .cleanup, message, code := some "SOURCE_DELETE_FAILED"
    facts := [("source_file", .text source.text), ("os_error", .text e.message)] }

/-- Deletes the source; a refusal is logged and handed back. -/
def deleteSource (t : Compilation) (source : PathName) : Action (Option Fault) := do
  enter .delete
  match ← Session.attempt (FileTree.unlink source.text) with
  | .ok () => return none
  | .error e =>
    let f ← Session.ofExcept (t.notDeleted source e)
    Session.log .warning f.message
    return some f

def resolve (messages : Messages) (data : Metadata) (diagnostics : List Diagnostic) :
    Action (List ErrorDetail) := do
  let (findings, failure?) := data.findings messages diagnostics
  findings.forM fun found =>
    match found.warning? with
    | some text => Session.log .warning text
    | none => pure ()
  match failure? with
  | some e => throw e
  | none => return findings.filterMap (·.detail?)

def report (t : Compilation) (errors : List ErrorDetail) : Action Unit := do
  if !errors.isEmpty then
    enter .report
    t.dispatcher errors

/-- Installs symbols, unless the context forbids it or nobody does it; tells whether it was done. -/
def install (t : Compilation) (c : Context) (data : Metadata) : Action Bool := do
  if c.prototype || c.smapSuppressed then return false
  match t.installer with
  | none =>
    Session.log .debug "No symbol installer configured, skipping SMAP"
    return false
  | some installer =>
    enter .install
    installer data.lineMaps
    return true

def run (t : Compilation) (c : Context) (data : Metadata) : Action Outcome := do
  let (options, diagnostics) ← t.diagnose c
  let cleanup ← if c.keepGenerated then pure none else t.deleteSource c.sourceFile
  let errors ← resolve t.messages data diagnostics
  t.report errors
  Session.log .debug s!"Compiled {c.sourceFile.text} in 0ms"
  let symbolsInstalled ← t.install c data
  return {
    errors, options, cleanup, symbolsInstalled
    sourceDeleted := !c.keepGenerated && cleanup.isNone }

/-- The compilation of a page as it is usually done: errors are collected, and source maps go into
the scratch directory. -/
def standard (backend : Backend) (c : Context) (dispatcher : Dispatcher := .collecting)
    (installer : Option SymbolInstaller := none) : Compilation :=
  { backend, dispatcher, installer := some (installer.getD (SymbolFiles.install c.scratchDir)) }

end Compilation
end PageBuild
