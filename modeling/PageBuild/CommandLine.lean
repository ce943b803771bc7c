import PageBuild.CommandLine.Parsing
import PageBuild.CommandLine.Usage
import PageBuild.Compilation
import PageBuild.Documents
import PageBuild.Json.Printer

/-! The command line: compiles one page source and tells the result by its exit code, which is zero
for a page without errors, one for a page with errors, and two for any failure that is told. -/
namespace PageBuild.CommandLine

structure Exit where
  /-- The exit code, or the failure that is not told. -/
  code : Except Failure Nat := .ok 0
  output : String := ""
  errors : String := ""
  /-- The command line was not even run: it wants help, or it is mistaken. -/
  isStopped : Bool := false

def mistaken (message : String) : Exit :=
  { code := .ok 2, errors := s!"{usage}page-compiler: error: {message}\n", isStopped := true }

def stopped : Stop → Exit
  | .help => { output := help, isStopped := true }
  | .usage message => mistaken message

/-- The context that a command line describes; without a scratch directory, the classes go beside
the source. -/
def contextOf (s : Settings) (source : PathName) : Except Schema.Report Context :=
  let optional (text : Option String) : Json := (text.map Json.str).getD .null
  Context.ofPaths (s.scratchDir.getD source.parent) source [
    ("class_path", .str s.classPath),
    ("java_encoding", .str s.encoding),
    ("class_debug_info", .bool !s.noDebug),
    ("compiler_source_vm", optional s.sourceLevel),
    ("compiler_target_vm", optional s.targetLevel),
    ("keep_generated", .bool !s.deleteGenerated),
    ("prototype_mode", .bool s.prototype),
    ("smap_suppressed", .bool s.suppressSmap)]

def loadContext (s : Settings) (source : PathName) : Action Context :=
  match s.config with
  | some config => Documents.load Documents.context config.text
  | none => Session.ofExcept ((contextOf s source).mapError .rejected)

def backendSettings (s : Settings) : List Setting :=
  .timeout (s.timeout.map .real) :: match s.executable with
    | none | some "" => []
    | executable => [.executable executable]

def compile (registry : Registry) (s : Settings) (source : PathName) :
    Action (Context × Outcome) := do
  let c ← loadContext s source
  let lineMaps ← match s.lineMap with
    | some file => some <$> Documents.load Documents.lineMaps file.text
    | none => pure none
  let backend ← Session.ofExcept (registry.create s.backend (backendSettings s))
  return (c, ← (Compilation.standard backend c).run c { lineMaps })

/-- Prints lines, up to the first that cannot be written or has no encoding. -/
def print : List (Except Failure String) → String × Except Failure Unit
  | [] => ("", .ok ())
  | .error e :: _ => ("", .error e)
  | .ok line :: rest =>
    match Utf8.unencodable? (fun _ => false) line.toList with
    | some e => ("", .error (.value (.text (.unencodable e))))
    | none =>
      let (more, done) := print rest
      (line ++ "\n" ++ more, done)

/-- What is printed about an outcome. A line that cannot be printed is not told of. -/
def printed (s : Settings) (c : Context) (o : Outcome) : Exit :=
  let code := if o.success then 0 else 1
  if s.json then { code := .ok code, output := o.json.pretty ++ "\n" }
  else
    let (output, done) := print (o.errors.map fun d => d.text.mapError .ofNumber)
    match done with
    | .error e => { code := .error e, output }
    | .ok () =>
      let success := if o.success then [.ok s!"Compiled {c.sourceFile.text} in 0ms"] else []
      let (last, done) := print success
      { code := done.map fun _ => code
        output := output ++ last
        errors := (o.cleanup.map fun f => s!"warning: {f.message}\n").getD "" }

def failed (e : Failure) : Exit :=
  match e with
  | .fault f => { code := .ok 2, errors := s!"error: {f.message}\n" }
  | e =>
    match e.isAboutValue, e.message? with
    | true, some message =>
      { code := .ok 2, errors := s!"error: invalid compilation context: {message}\n" }
    | _, _ => { code := .error e }

def runSettings (registry : Registry) (s : Settings) (session : Session) : Exit × Session :=
  match s.config, s.source with
  | none, none => (mistaken "a source file or --config is required", session)
  | _, source =>
    match compile registry s (source.getD .here) session with
    | .ok (c, o) session => (printed s c o, session)
    | .error e session => (failed e, session)

def run (registry : Registry) (words : List String) (session : Session) : Exit × Session :=
  match parse registry.names words with
  | .error stop => (stopped stop, session)
  | .ok s =>
    let session := if s.verbose then
        { session with journal := session.journal ++ [.redirected .debug] }
      else session
    runSettings registry s session

end PageBuild.CommandLine
