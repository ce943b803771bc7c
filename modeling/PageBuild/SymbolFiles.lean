import PageBuild.Messages
import PageBuild.Session

/-! Symbol files: the source map of every class, in a file next to the class. -/
namespace PageBuild

abbrev SymbolInstaller := Option LineMaps → Action Unit

namespace SymbolFiles

def target (directory : PathName) (m : LineMap) : Except Failure PathName :=
  match m.smapFile with
  | .ok file => .ok (directory.join file)
  | .error e => .error (.value (.emptyName e))

/-- Writes a source map, after the directories above it were made. -/
def write (file : PathName) (m : LineMap) : Action (Except OsError Unit) := do
  match ← Session.attempt (FileTree.ensureDirectory file.parent) with
  | .error e => return .error e
  | .ok () =>
    let text ← Session.ofExcept (m.smap.mapError .ofNumber)
    Session.attempt (FileTree.writeText file.text text)

def failed (messages : Messages) (m : LineMap) (file : PathName) (e : OsError) :
    Except Failure Unit := do
  let message ← messages.say .smapInstallFailed [.text m.className, .refusal e]
  throw (.fault {
    kind := .symbols, message, code := some "SMAP_WRITE_ERROR"
    facts := [("target", .text file.text)] })

def installOne (directory : PathName) (messages : Messages) (m : LineMap) : Action Unit := do
  let file ← Session.ofExcept (target directory m)
  match ← write file m with
  | .ok () => Session.log .debug s!"Installed SMAP for {m.className} at {file.text}"
  | .error e => Session.ofExcept (failed messages m file e)

/-- Writes the source map of every class, up to the first that cannot be written. -/
def install (directory : PathName) (messages : Messages := {}) : SymbolInstaller
  | none | some [] => Session.log .debug "No line maps to install"
  | some maps => maps.forM fun (_, m) => installOne directory messages m

end SymbolFiles
end PageBuild
