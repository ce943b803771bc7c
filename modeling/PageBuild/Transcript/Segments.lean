import PageBuild.Transcript.Ecj.Pattern
import PageBuild.Transcript.Format
import PageBuild.Transcript.Javac.Pattern

/-! Segments of transcripts. A line that starts a diagnostic makes a segment together with the
ordinary lines right below it, up to the next line that is not ordinary. What a segment reports is
settled by its own lines; every other line belongs to no segment. -/
namespace PageBuild.Transcript

/-- What a body says, and the column that it points at. The first caret line is left out, and so is
the line above it, which echoes the source. -/
inductive Explains : (body said : List (List Char)) → (column : Option Nat) → Prop
  | unpointed {body : List (List Char)} (plain : ∀ line ∈ body, ¬ IsCaretLine line) :
    Explains body (details body) none
  | pointed {before after : List (List Char)} {caret : List Char}
      (plain : ∀ line ∈ before, ¬ IsCaretLine line) (points : IsCaretLine caret) :
    Explains (before ++ caret :: after) (details (before.dropLast ++ after))
      (some (caret.idxOf '^' + 1))

namespace Javac

structure Cut where
  file : List Char
  digits : List Char
  severity : Severity
  message : List Char

namespace Cut

def Of (x : Cut) (line : List Char) : Prop :=
  x.file ≠ [] ∧ IsNumeral x.digits ∧ line = x.file ++ (mark x.digits x.severity ++ x.message)

/-- Of all ways to cut a line, the one with the shortest file counts. -/
def IsFirst (x : Cut) (line : List Char) : Prop :=
  x.Of line ∧ ∀ y : Cut, y.Of line → x.file.length ≤ y.file.length

end Cut

/-- The line opens a block: it is a header, or it is none and starts with the word for a kind. -/
inductive Opens (line : List Char) : Heading → Prop
  | located {x : Cut} (first : x.IsFirst line) : Opens line {
      kind := x.severity.kind
      source := some (String.ofList x.file)
      line := some (Text.natOfDigits x.digits)
      lead := [x.message] }
  | fileless {severity : Severity} {message : List Char} (text : line = severity.word ++ message)
      (not_header : ¬ IsHeader line) : Opens line { kind := severity.kind, lead := [message] }

end Javac

inductive Ecj.Opens (line : List Char) : Heading → Prop
  | problem {number : List Char} {severity : Severity} {file digits : List Char}
      (number_numeral : IsNumeral number) (ne_nil : file ≠ []) (numeral : IsNumeral digits)
      (text : line = header number severity file digits) : Opens line {
      kind := severity.kind
      source := some (String.ofList file)
      line := some (Text.natOfDigits digits) }

namespace Format

def Opens : Format → List Char → Heading → Prop
  | .javac => Javac.Opens
  | .ecj => Ecj.Opens

/-- The line is a note, which is a diagnostic by itself; one format has them. -/
def Notes : Format → (line message : List Char) → Prop
  | .javac => fun line message =>
    line = "Note: ".toList ++ message ∧ ¬ Javac.IsHeader line ∧ ¬ Javac.IsFileless line
  | .ecj => fun _ _ => False

def Starts : Format → List Char → Prop
  | .javac => fun line => Javac.IsHeader line ∨ Javac.IsFileless line ∨ Javac.IsNote line
  | .ecj => Ecj.IsHeader

def IsOrdinary : Format → List Char → Prop
  | .javac => Javac.IsOrdinary
  | .ecj => Ecj.IsOrdinary

instance (format : Format) (line : List Char) : Decidable (format.Starts line) :=
  match format with
  | .javac => inferInstanceAs (Decidable (_ ∨ _ ∨ _))
  | .ecj => inferInstanceAs (Decidable (Ecj.IsHeader line))

instance (format : Format) (line : List Char) : Decidable (format.IsOrdinary line) :=
  match format with
  | .javac => inferInstanceAs (Decidable (Javac.IsOrdinary line))
  | .ecj => inferInstanceAs (Decidable (Ecj.IsOrdinary line))

/-- The lines that start a diagnostic, each with the ordinary lines right below it. -/
def segments (format : Format) : List (List Char) → List (List Char × List (List Char))
  | [] => []
  | line :: rest =>
    if format.Starts line then
      (line, rest.takeWhile (format.IsOrdinary ·)) :: segments format rest
    else segments format rest

/-- The diagnostic of a segment. A note says nothing but its own line. -/
inductive Reports (format : Format) : List Char × List (List Char) → Diagnostic → Prop
  | block {line : List Char} {heading : Heading} {body said : List (List Char)}
      {column : Option Nat} (opens : format.Opens line heading)
      (explains : Explains body said column) : Reports format (line, body) {
      kind := heading.kind
      message := String.ofList (List.intercalate ['\n'] (heading.lead ++ said))
      source := heading.source
      line := heading.line.map Int.ofNat
      column := column.map Int.ofNat }
  | note {line message : List Char} {body : List (List Char)} (notes : format.Notes line message) :
    Reports format (line, body) { kind := .note, message := String.ofList message }

def Numbers : Format → (line digits : List Char) → Prop
  | .javac => fun line digits => ∃ x : Javac.Cut, x.IsFirst line ∧ x.digits = digits
  | .ecj => fun line digits => ∃ number severity file, IsNumeral number ∧ file ≠ [] ∧
      IsNumeral digits ∧ line = Ecj.header number severity file digits

def IsErrorHeader : Format → List Char → Prop
  | .javac => fun line => ∃ x : Javac.Cut, x.IsFirst line ∧ x.severity = .error
  | .ecj => fun line => ∃ number file digits, IsNumeral number ∧ file ≠ [] ∧ IsNumeral digits ∧
      line = Ecj.header number .error file digits

def IsReadable (format : Format) (s : String) : Prop :=
  ∀ line ∈ linesOf s.toList, ∀ digits, format.Numbers line digits →
    digits.length ≤ Text.numeralLimit

/-- A block is still open behind the lines: the last one that is not ordinary opens it. -/
def LeavesOpen (format : Format) (lines : List (List Char)) : Prop :=
  ∃ line heading, (lines.filter (¬ format.IsOrdinary ·)).getLast? = some line ∧
    format.Opens line heading

end Format

/-- The first line is in no segment; the body of the note is there, but it is not reported. -/
example : Format.javac.segments (linesOf
    "x\nA.java:3: error: e\n  a\n\nint\n  ^\nNote: n\ny\nwarning: w".toList) =
    [("A.java:3: error: e".toList, ["  a".toList, [], "int".toList, "  ^".toList]),
      ("Note: n".toList, ["y".toList]), ("warning: w".toList, [])] := by
  decide

end PageBuild.Transcript
