import PageBuild.Handle
import PageBuild.Options

/-! Compiler backends: how a compiler is found, called and understood. A backend that finds its
compiler hands out a handle for it; one that does not is unavailable, and looks for no other. -/
namespace PageBuild

inductive Finder
  /-- A given executable, or else the compiler of the Java installation, or else of the path. -/
  | javac
  /-- A jar for the Java launcher of the path, or else a given executable or the script `ecj`. -/
  | ecj
  /-- A command that is known beforehand, if there is one. -/
  | fixed (command : Option (List String))
  /-- No way is known. -/
  | unspecified
  deriving DecidableEq, Repr

structure Toolchain where
  name : String
  dialect : Dialect := .base
  format : Transcript.Format := .javac
  successCodes : List Int := [0, 1]
  usesArgumentFile : Bool := true
  /-- The tokens between the executable and the arguments. -/
  launcherOptions : List String := []
  finder : Finder
  deriving DecidableEq, Repr

namespace Toolchain

def javac : Toolchain :=
  { name := "javac", dialect := .javac, finder := .javac
    launcherOptions := ["-J-Duser.language=en", "-J-Duser.country=US"] }

def ecj : Toolchain :=
  { name := "ecj", dialect := .ecj, format := .ecj, usesArgumentFile := false, finder := .ecj }

end Toolchain

inductive Setting
  | executable (path : Option String)
  | timeout (time : Option Quantity)
  | jar (path : Option String)
  | messages (m : Messages)
  | other (name : String)
  deriving Repr

structure Backend extends Toolchain where
  executable : Option String := none
  timeout : Option Quantity := none
  jar : Option PathName := none
  messages : Messages := {}
  deriving Repr

namespace Backend

/-- An empty path is none. -/
def given? (path : Option String) : Option String := path.filter (· ≠ "")

/-- Makes a setting; only a backend that looks for a jar takes one. -/
def set (b : Backend) : Setting → Except Failure Backend
  | .executable path => .ok { b with executable := given? path }
  | .timeout time => .ok { b with timeout := time }
  | .messages m => .ok { b with messages := m }
  | .jar path =>
    if b.finder = .ecj then .ok { b with jar := (given? path).map .ofText } else .error .type
  | .other _ => .error .type

def make (t : Toolchain) (settings : List Setting) : Except Failure Backend :=
  if t.finder = .unspecified then .error .type
  else settings.foldlM set { t with }

def systemPath : String := "/bin:/usr/bin"

/-- The entries of the search path; an empty one has none. -/
def searchPath (s : Session) : List String :=
  match (s.environment? "PATH").getD systemPath with
  | "" => []
  | path => (Text.splitOn ':' path.toList).map String.ofList

/-- A name in a directory of the search path; the empty entry is the current directory. -/
def under (directory name : String) : String :=
  if directory = "" || directory.toList.getLast? = some '/' then directory ++ name
  else directory ++ "/" ++ name

/-- The program that a name stands for: a name with a slash for itself, any other for the first
program of that name on the search path. -/
def lookUp (s : Session) (name : String) : Option String :=
  if name.toList.contains '/' then
    if s.files.isProgram name then some name else none
  else ((searchPath s).map (under · name)).find? s.files.isProgram

def program (s : Session) (text : String) : Except OsError (Option String) := do
  let path := (PathName.ofText text).text
  if (← s.files.isFile? path) && s.files.isProgram path then return some path
  else return lookUp s text

/-- The compiler of the Java installation, if the variable for it is set and the file is there. -/
def installed (s : Session) : Except OsError (Option String) :=
  match given? (s.environment? "JAVA_HOME") with
  | none => .ok none
  | some home => do
    let path := (PathName.ofTexts [home, "bin", "javac"]).text
    if ← s.files.isFile? path then return some path else return none

def locate (b : Backend) (s : Session) : Except OsError (Option (List String)) :=
  match b.finder with
  | .fixed command => .ok command
  | .unspecified => .ok none
  | .javac => do
    match b.executable with
    | some text => return (← program s text).map ([·])
    | none => match ← installed s with
      | some path => return some [path]
      | none => return (lookUp s "javac").map ([·])
  | .ecj => do
    match b.jar with
    | some jar => match lookUp s "java" with
      | none => return none
      | some java =>
        if ← s.files.isFile? jar.text then return some [java, "-jar", jar.text] else return none
    | none => return (← program s (b.executable.getD "ecj")).map ([·])

def find (b : Backend) : Action (Option (List String)) := do
  match b.locate (← get) with
  | .ok command => return command
  | .error e => throw (.refused e)

def notFound (b : Backend) : Except Failure Handle := do
  let message ← b.messages.say .backendNotFound [.text b.name]
  throw (.fault {
    kind := .unavailable, message, code := some "BACKEND_NOT_FOUND"
    facts := [("backend", .text b.name)] })

def acquire (b : Backend) (encoding : String) : Action Handle := do
  match ← b.find with
  | none | some [] => Session.ofExcept b.notFound
  | some command => Handle.open {
      name := b.name, command := command ++ b.launcherOptions, format := b.format, encoding
      successCodes := b.successCodes, usesArgumentFile := b.usesArgumentFile
      timeout := b.timeout, messages := b.messages }

end Backend

structure Registry where
  kinds : List (String × Toolchain) := [("javac", .javac), ("ecj", .ecj)]
  deriving Repr

namespace Registry

/-- Makes a kind known under a name, whatever the case of its letters. -/
def register (r : Registry) (name : String) (t : Toolchain) : Registry :=
  { kinds := Json.put r.kinds (Text.lower name) t }

def names (r : Registry) : List String := (r.kinds.map (·.1)).mergeSort (· ≤ ·)

def messagesOf (settings : List Setting) : Messages :=
  (settings.findSome? fun | .messages m => some m | _ => none).getD {}

def create (r : Registry) (name : String) (settings : List Setting) : Except Failure Backend :=
  match Json.find? r.kinds (Text.lower name) with
  | some t => Backend.make t settings
  | none => do
    let message ← (messagesOf settings).say .unknownBackend
      [.text name, .text (Text.join ", " r.names)]
    throw (.fault {
      kind := .configuration, message, code := some "UNKNOWN_BACKEND"
      facts := [("backend", .text name)] })

end Registry
end PageBuild
