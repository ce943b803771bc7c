import PageBuild.Transcript

/-! The transcripts of the Eclipse compiler. A problem starts with
`number. ERROR in file (at line n)`, where the kind may also be `WARNING` or `INFO`; a line of ten
or more dashes closes it. -/
namespace PageBuild.Transcript.Ecj

def severity? (s : List Char) : Option (Kind × List Char) :=
  [("ERROR in ", Kind.error), ("WARNING in ", .warning), ("INFO in ", .note)].findSome?
    fun (word, kind) => (Text.after? word.toList s).map (kind, ·)

def place? (s : List Char) : Option (List Char) := do
  let rest ← Text.after? " (at line ".toList s
  let (digits, rest) ← numbered? [')'] rest
  if rest.isEmpty then return digits else none

def file? : List Char → Option (List Char × List Char)
  | [] => none
  | c :: rest =>
    match place? rest with
    | some digits => some ([c], digits)
    | none => (file? rest).map fun (file, digits) => (c :: file, digits)

def heading? (line : List Char) : Option (Kind × List Char × List Char) := do
  let (_, rest) ← numbered? ['.', ' '] line
  let (kind, rest) ← severity? rest
  let (file, digits) ← file? rest
  return (kind, file, digits)

def isSeparator (line : List Char) : Bool := 10 ≤ line.length && line.all (· = '-')

def role (line : List Char) : Except Text.LongNumeral Role :=
  match heading? line with
  | some (kind, file, digits) => do
    let n ← Text.readNumeral digits
    return .opens { kind, source := some (String.ofList file), line := some n }
  | none => .ok (if isSeparator line then .closes else .body)

end PageBuild.Transcript.Ecj
