import PageBuild.CommandLine.Word

/-! Parsing the command line: the first argument is the source, flags take their values, and
whatever is left over is refused at the end. -/
namespace PageBuild.CommandLine

structure Progress where
  settings : Settings := {}
  hasSource : Bool := false
  /-- The words that nothing takes, the last one first. -/
  extras : List String := []
  deriving DecidableEq, Repr

namespace Progress

def skip (p : Progress) (word : String) : Progress := { p with extras := word :: p.extras }

def takeSource (p : Progress) (word : String) : Progress :=
  { p with settings := { p.settings with source := some (.ofText word) }, hasSource := true }

def setFlags (p : Progress) (flags : List Flag) : Except Stop Progress := do
  return { p with settings := ← flags.foldlM Settings.setFlag p.settings }

def setValue (p : Progress) (backends : List String) (f : Flag) (value : String) :
    Except Stop Progress := do
  return { p with settings := ← p.settings.setValue backends f value }

end Progress

def ignored (f : Flag) (value : List Char) : Stop :=
  .usage (f.mistake s!"ignored explicit argument {Text.quoted (String.ofList value)}")

/-- The flags of a word that starts with a short flag and goes on with a text, and the end of the
word that is none. -/
def cluster (f : Flag) : (explicit : Bool) → List Char → Except Stop (List Flag × Option String)
  | explicit, [] => if explicit then .error (ignored f []) else .ok ([f], none)
  | explicit, c :: rest =>
    if explicit || c = '-' then .error (ignored f (c :: rest))
    else match Flag.ofSpelling? (String.ofList ['-', c]) with
      | none => .ok ([f], some (String.ofList ('-' :: c :: rest)))
      | some next => do
        let (flags, extra) ← match rest with
          | [] => .ok ([next], none)
          | '=' :: value => .error (ignored next value)
          | rest => cluster next false rest
        return (f :: flags, extra)

def applyFlag (p : Progress) (use : Use) : Except Stop Progress :=
  match use.tail with
  | none => p.setFlags [use.flag]
  | some tail =>
    if use.spelling.toList.take 2 = ['-', '-'] then .error (ignored use.flag tail.text)
    else do
      let (flags, extra) ← cluster use.flag tail.explicit tail.text
      match extra with
      | none => p.setFlags flags
      | some word => (p.skip word).setFlags flags

def parseFrom (backends : List String) : Progress → List Word → Except Stop Progress
  | p, [] => .ok p
  | p, ⟨word, .unknown⟩ :: rest => parseFrom backends (p.skip word) rest
  | p, ⟨word, .break⟩ :: rest =>
    parseFrom backends (if p.hasSource then p.skip word else p) rest
  | p, ⟨word, .argument⟩ :: rest =>
    if p.hasSource then parseFrom backends (p.skip word) rest
    else match rest with
      | ⟨_, .break⟩ :: rest => parseFrom backends (p.takeSource word) rest
      | rest => parseFrom backends (p.takeSource word) rest
  | p, ⟨_, .flag use⟩ :: rest =>
    if !use.flag.takesValue then do parseFrom backends (← applyFlag p use) rest
    else match use.tail, rest with
      | some tail, rest => do
        parseFrom backends (← p.setValue backends use.flag (String.ofList tail.text)) rest
      | none, ⟨value, .argument⟩ :: rest => do
        parseFrom backends (← p.setValue backends use.flag value) rest
      | none, _ => .error (.usage (use.flag.mistake "expected one argument"))

def parse (backends : List String) (words : List String) : Except Stop Settings := do
  let p ← parseFrom backends {} (← Word.ofTexts words)
  if !p.extras.isEmpty then
    let extras := Text.join " " p.extras.reverse
    throw (.usage s!"unrecognized arguments: {extras}")
  return p.settings

end PageBuild.CommandLine
