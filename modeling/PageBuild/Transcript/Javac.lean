import PageBuild.Transcript

/-! The transcripts of `javac`. A located diagnostic starts with `file:line: error: `, one without
a file with `error: `, both also with `warning`; a note starts with `Note: ` and stands alone; the
counts at the end close the block before them. -/
namespace PageBuild.Transcript.Javac

def severity? (s : List Char) : Option (Kind × List Char) :=
  match Text.after? "error: ".toList s with
  | some message => some (.error, message)
  | none => (Text.after? "warning: ".toList s).map (.warning, ·)

def location? : List Char → Option (List Char × Kind × List Char)
  | ':' :: rest => do
    let (digits, rest) ← numbered? [':', ' '] rest
    let (kind, message) ← severity? rest
    return (digits, kind, message)
  | _ => none

structure Located where
  file : List Char
  digits : List Char
  kind : Kind
  message : List Char
  deriving DecidableEq, Repr

/-- A located line; the file name is as short as it can be, but not empty. -/
def located? : List Char → Option Located
  | [] => none
  | c :: rest =>
    match location? rest with
    | some (digits, kind, message) => some ⟨[c], digits, kind, message⟩
    | none => (located? rest).map fun l => { l with file := c :: l.file }

def isCount (line : List Char) : Bool :=
  match numbered? [' '] (Text.trim Text.isBlank line) with
  | some (_, word) =>
    ["error", "errors", "warning", "warnings"].any fun known => known.toList = word
  | none => false

def role (line : List Char) : Except Text.LongNumeral Role :=
  match located? line with
  | some l => do
    let n ← Text.readNumeral l.digits
    return .opens {
      kind := l.kind, source := some (String.ofList l.file), line := some n, lead := [l.message] }
  | none =>
    match severity? line with
    | some (kind, message) => .ok (.opens { kind, lead := [message] })
    | none =>
      match Text.after? "Note: ".toList line with
      | some message => .ok (.alone { kind := .note, message := String.ofList message })
      | none => .ok (if isCount line then .closes else .body)

end PageBuild.Transcript.Javac
