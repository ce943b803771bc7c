import PageBuild.CommandLine

/-! The program `page-compiler`. The Java compiler runs before it: what it printed is the standard
input, and its exit code is in the variable `COMPILER_STATUS`. The files that the command line leads
to are read into a session, and what the session did to them is done to the disk afterwards. -/
namespace PageBuild.Main

def pathOf (place : Place) : String := "/" ++ Text.join "/" place

def addFile (t : FileTree) (path : String) (content : List UInt8) : FileTree :=
  let all : FileTree.Change Unit := do
    FileTree.ensureDirectory (PathName.ofText path).parent
    FileTree.write path content
    let t ← get
    match t.resolve path with
    | .ok place => set (t.put place (.file content true))
    | .error e => throw e
  match all t with
  | .ok _ t => t
  | .error _ _ => t

/-- Reads files of the disk into a session; what cannot be read is left out. -/
def readFiles (s : Session) (paths : List String) : IO Session := do
  let mut files := s.files
  for path in paths do
    match ← (IO.FS.readBinFile path).toBaseIO with
    | .ok content => files := addFile files path content.toList
    | .error _ => pure ()
  return { s with files }

def named (s : CommandLine.Settings) : List String :=
  [s.config, s.lineMap, s.source].filterMap (·.map (·.text)) ++ s.executable.toList

def programs (s : Session) (settings : CommandLine.Settings) : List String :=
  let names := ["javac", "ecj", "java"] ++ settings.executable.toList
  let onPath := (Backend.searchPath s).flatMap fun directory => names.map (Backend.under directory)
  onPath ++ ((s.environment? "JAVA_HOME").map (· ++ "/bin/javac")).toList

/-- The source of the page, which a configuration file may name. -/
def sources (s : Session) (settings : CommandLine.Settings) : List String :=
  match CommandLine.loadContext settings (settings.source.getD .here) s with
  | .ok c _ => [c.sourceFile.text]
  | .error _ _ => []

def readVariables : IO (List (String × String)) := do
  let mut all := []
  for name in ["PATH", "JAVA_HOME"] do
    if let some value ← IO.getEnv name then all := all ++ [(name, value)]
  return all

def readEnding : IO Ending := do
  let status ← IO.getEnv "COMPILER_STATUS"
  let printed ← (← IO.getStdin).readToEnd
  return .exited ((status.bind String.toInt?).getD 0) (Utf8.encode printed) []

def readSession (words : List String) : IO Session := do
  let here := PathName.ofText (← IO.currentDir).toString
  let empty : FileTree := { entries := [(["tmp"], .directory)], current := [] }
  let files := match FileTree.ensureDirectory here empty with
    | .ok _ t | .error _ t => { t with current := here.parts }
  let session : Session := { files, environment := ← readVariables }
  match CommandLine.parse (Registry.names {}) words with
  | .error _ => return session
  | .ok settings =>
    let session ← readFiles session (named settings ++ programs session settings)
    let session ← readFiles session (sources session settings)
    return { session with endings := [← readEnding] }

/-- Does to the disk what was done to the files. -/
def writeChanges (before after : FileTree) : IO Unit := do
  for (place, _) in before.entries do
    if (after.entry? place).isNone then IO.FS.removeFile (pathOf place)
  for (place, entry) in after.entries do
    if before.entry? place ≠ some entry then
      match entry with
      | .directory => IO.FS.createDirAll (pathOf place)
      | .file content _ => IO.FS.writeBinFile (pathOf place) ⟨content.toArray⟩

def logLines (s : Session) : String :=
  Text.join "" (s.journal.filterMap fun
    | .logged level text => some s!"{level.name}: {text}\n"
    | _ => none)

def failureLine (e : Failure) : String :=
  let message := e.message?.getD "the page cannot be compiled"
  s!"failure: {message}\n"

end PageBuild.Main

open PageBuild in
def main (words : List String) : IO UInt32 := do
  let session ← Main.readSession words
  let (exit, after) := CommandLine.run {} words session
  Main.writeChanges session.files after.files
  IO.print exit.output
  IO.eprint (Main.logLines after ++ exit.errors)
  match exit.code with
  | .ok code => return code.toUInt32
  | .error e =>
    IO.eprint (Main.failureLine e)
    return 1
