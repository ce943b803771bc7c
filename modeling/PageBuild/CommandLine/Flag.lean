import PageBuild.PathName
import PageBuild.Number.Reading
import PageBuild.Text.Quoted

/-! The flags of the command line and what they set. -/
namespace PageBuild.CommandLine

inductive Flag
  | help
  | config
  | backend
  | executable
  | timeout
  | lineMap
  | json
  | verbose
  | scratchDir
  | classPath
  | encoding
  | source
  | target
  | noDebug
  | deleteGenerated
  | prototype
  | suppressSmap
  deriving DecidableEq, Repr

namespace Flag

def spellings : Flag → List String
  | .help => ["-h", "--help"]
  | .config => ["--config"]
  | .backend => ["--backend"]
  | .executable => ["--executable"]
  | .timeout => ["--timeout"]
  | .lineMap => ["--line-map"]
  | .json => ["--json"]
  | .verbose => ["--verbose", "-v"]
  | .scratchDir => ["--scratch-dir"]
  | .classPath => ["--classpath"]
  | .encoding => ["--encoding"]
  | .source => ["--source"]
  | .target => ["--target"]
  | .noDebug => ["--no-debug"]
  | .deleteGenerated => ["--delete-generated"]
  | .prototype => ["--prototype"]
  | .suppressSmap => ["--suppress-smap"]

def takesValue : Flag → Bool
  | .help | .json | .verbose | .noDebug | .deleteGenerated | .prototype | .suppressSmap => false
  | _ => true

def all : List Flag := [
  .help, .config, .backend, .executable, .timeout, .lineMap, .json, .verbose, .scratchDir,
  .classPath, .encoding, .source, .target, .noDebug, .deleteGenerated, .prototype, .suppressSmap]

def mistake (f : Flag) (what : String) : String :=
  let spellings := Text.join "/" f.spellings
  s!"argument {spellings}: {what}"

def table : List (String × Flag) := all.flatMap fun f => f.spellings.map (·, f)

def ofSpelling? (spelling : String) : Option Flag :=
  (table.find? (·.1 = spelling)).map (·.2)

end Flag

structure Settings where
  source : Option PathName := none
  config : Option PathName := none
  backend : String := "javac"
  executable : Option String := none
  timeout : Option Binary64 := none
  lineMap : Option PathName := none
  json : Bool := false
  verbose : Bool := false
  scratchDir : Option PathName := none
  classPath : String := ""
  encoding : String := "UTF-8"
  sourceLevel : Option String := none
  targetLevel : Option String := none
  noDebug : Bool := false
  deleteGenerated : Bool := false
  prototype : Bool := false
  suppressSmap : Bool := false
  deriving DecidableEq, Repr

inductive Stop
  | help
  | usage (message : String)
  deriving DecidableEq, Repr

namespace Settings

def setFlag (s : Settings) : Flag → Except Stop Settings
  | .help => .error .help
  | .json => .ok { s with json := true }
  | .verbose => .ok { s with verbose := true }
  | .noDebug => .ok { s with noDebug := true }
  | .deleteGenerated => .ok { s with deleteGenerated := true }
  | .prototype => .ok { s with prototype := true }
  | .suppressSmap => .ok { s with suppressSmap := true }
  | _ => .ok s

/-- Sets a flag to a value; the backend must be one of those to choose from. -/
def setValue (s : Settings) (backends : List String) (f : Flag) (value : String) :
    Except Stop Settings :=
  match f with
  | .config => .ok { s with config := some (.ofText value) }
  | .backend =>
    if backends.contains value then .ok { s with backend := value }
    else
      let choices := Text.join ", " (backends.map Text.quoted)
      .error (.usage (f.mistake
        s!"invalid choice: {Text.quoted value} (choose from {choices})"))
  | .executable => .ok { s with executable := some value }
  | .timeout => match Binary64.ofText? value with
    | some x => .ok { s with timeout := some x }
    | none => .error (.usage (f.mistake s!"invalid float value: {Text.quoted value}"))
  | .lineMap => .ok { s with lineMap := some (.ofText value) }
  | .scratchDir => .ok { s with scratchDir := some (.ofText value) }
  | .classPath => .ok { s with classPath := value }
  | .encoding => .ok { s with encoding := value }
  | .source => .ok { s with sourceLevel := some value }
  | .target => .ok { s with targetLevel := some value }
  | _ => .ok s

end Settings
end PageBuild.CommandLine
