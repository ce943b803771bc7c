import PageBuild.Transcript.Format
import PageBuild.Transcript.Javac.Pattern

/-! How `javac` prints. A transcript is a list of blocks, each with the counts that follow it. A
block is a first line and, unless it is a note, an explanation: detail lines, with the echo of a
source line and its caret line anywhere among them. -/
namespace PageBuild.Transcript.Javac

/-- The file of a diagnostic; a mark inside it would be taken for its end. -/
structure File where
  text : List Char
  ne_nil : text ≠ []
  unbroken : Text.Unbroken text
  unmarked : ¬ HasMark text

/-- The digits of a line number, as many as can be read. -/
structure LineNumber where
  digits : List Char
  numeral : IsNumeral digits
  length_le : digits.length ≤ Text.numeralLimit

def LineNumber.ofNat (n : Nat) (h : (Decimal.ofNat n).length ≤ Text.numeralLimit) : LineNumber where
  digits := Decimal.ofNat n
  numeral := isNumeral_ofNat n
  length_le := h

/-- The first line of a message: not empty, and without blanks at its end. -/
structure Message where
  front : List Char
  last : Char
  unbroken : Text.Unbroken (front ++ [last])
  last_not_blank : Text.isBlank last = false

def Message.text (m : Message) : List Char := m.front ++ [m.last]

/-- A line that can be echoed: body, and no caret line. -/
structure PlainLine where
  text : List Char
  unbroken : Text.Unbroken text
  ordinary : IsOrdinary (Text.trimRight Text.isBlank text)
  not_caret : ¬ IsCaretLine text

structure Detail extends PlainLine where
  not_blank : Text.trim Text.isBlank text ≠ []

structure Caret where
  indent : List Char
  more : Nat
  back : List Char
  indent_blank : ∀ c ∈ indent, Text.isBlank c = true
  back_blank : ∀ c ∈ back, Text.isBlank c = true
  unbroken : Text.Unbroken (indent ++ back)

def Caret.text (c : Caret) : List Char := caretLine c.indent c.more c.back

def Caret.column (c : Caret) : Nat := c.indent.length + 1

structure Explanation where
  before : List Detail := []
  echo : Option (PlainLine × Caret) := none
  after : List Detail := []

def Explanation.lines (x : Explanation) : List (List Char) :=
  x.before.map (·.text) ++
    (match x.echo with
    | none => []
    | some (source, caret) => [source.text, caret.text]) ++
    x.after.map (·.text)

def Explanation.details (x : Explanation) : List (List Char) :=
  (x.before ++ x.after).map fun detail => Text.trim Text.isBlank detail.text

def Explanation.column (x : Explanation) : Option Nat := x.echo.map fun (_, caret) => caret.column

inductive Block
  | located (file : File) (number : LineNumber) (severity : Severity) (message : Message)
      (explanation : Explanation)
  | fileless (severity : Severity) (message : Message) (explanation : Explanation)
      (not_header : ¬ IsHeader (severity.word ++ message.text))
  | note (message : Message) (not_header : ¬ IsHeader ("Note: ".toList ++ message.text))

def Block.firstLine : Block → List Char
  | .located file number severity message _ =>
    file.text ++ (mark number.digits severity ++ message.text)
  | .fileless severity message _ _ => severity.word ++ message.text
  | .note message _ => "Note: ".toList ++ message.text

def Block.explanation : Block → Explanation
  | .located _ _ _ _ explanation => explanation
  | .fileless _ _ explanation _ => explanation
  | .note _ _ => {}

def Block.diagnostic : Block → Diagnostic
  | .located file number severity message explanation => {
      kind := severity.kind
      message := String.ofList (List.intercalate ['\n'] (message.text :: explanation.details))
      source := some (String.ofList file.text)
      line := some (Text.natOfDigits number.digits)
      column := explanation.column.map Int.ofNat }
  | .fileless severity message explanation _ => {
      kind := severity.kind
      message := String.ofList (List.intercalate ['\n'] (message.text :: explanation.details))
      column := explanation.column.map Int.ofNat }
  | .note message _ => { kind := .note, message := String.ofList message.text }

structure Count where
  text : List Char
  unbroken : Text.Unbroken text
  isCount : IsCount text

/-- A block, and the counts after it. -/
structure Printed where
  block : Block
  counts : List Count := []

def Printed.lines (p : Printed) : List (List Char) :=
  p.block.firstLine :: (p.block.explanation.lines ++ p.counts.map (·.text))

def transcript (printed : List Printed) : String :=
  String.ofList ((printed.flatMap Printed.lines).flatMap (· ++ ['\n']))

example :
    transcript [{
      block := .located ⟨"A.java".toList, by decide, by decide, by decide⟩
        (.ofNat 3 (by decide)) .error ⟨"';' expecte".toList, 'd', by decide, by decide⟩
        { echo := some (⟨"int x".toList, by decide, by decide, by decide⟩,
            ⟨[' ', ' ', ' '], 0, [], by simp; decide, by simp, by decide⟩) }
      counts := [⟨"1 error".toList, by decide, by decide⟩] }] =
      "A.java:3: error: ';' expected\nint x\n   ^\n1 error\n" := by
  decide

end PageBuild.Transcript.Javac
