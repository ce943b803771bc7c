import PageBuild.Json
import PageBuild.Text.Digit
import PageBuild.Text.Surrogate

/-! Reading JSON documents. A reader takes the rest of the document with its position and returns a
value with what follows; the first mistake ends the reading and is reported by line and column.
`NaN` and the infinities are accepted, and nesting is limited. -/
namespace PageBuild.Json

inductive Mistake
  | value
  | name
  | colon
  | comma
  | unterminated
  | control
  | escape
  | unit
  | extra
  | byteOrderMark
  deriving DecidableEq, Repr

def Mistake.message : Mistake → String
  | .value => "Expecting value"
  | .name => "Expecting property name enclosed in double quotes"
  | .colon => "Expecting ':' delimiter"
  | .comma => "Expecting ',' delimiter"
  | .unterminated => "Unterminated string starting at"
  | .control => "Invalid control character at"
  | .escape => "Invalid \\escape"
  | .unit => "Invalid \\uXXXX escape"
  | .extra => "Extra data"
  | .byteOrderMark => "Unexpected UTF-8 BOM (decode using utf-8-sig)"

inductive Container
  | array
  | object
  deriving DecidableEq, Repr

inductive Fault
  | mistake (what : Mistake) (pos : Nat)
  | numeral (e : Text.LongNumeral)
  | nesting (container : Container)
  deriving DecidableEq, Repr

def lineColumn (doc : List Char) (pos : Nat) : Nat × Nat :=
  let before := doc.take pos
  (before.count '\n' + 1, (before.reverse.takeWhile (· ≠ '\n')).length + 1)

def Mistake.report (what : Mistake) (doc : List Char) (pos : Nat) : String :=
  let (line, column) := lineColumn doc pos
  s!"{what.message}: line {line} column {column} (char {pos})"

def Container.message : Container → String
  | .array => "maximum recursion depth exceeded while decoding a JSON array from a unicode string"
  | .object => "maximum recursion depth exceeded while decoding a JSON object from a unicode string"

/-- Containers nested more deeply than this are not read. The runtime limits the depth of all calls
together; this is what its limit leaves to a document that the outermost function of a program
loads, and a document that is loaded from further down is left less. -/
def nestingLimit : Nat := 988

/-- The rest of a document, and how many characters stand before it. -/
structure Cursor where
  rest : List Char
  pos : Nat
  deriving DecidableEq, Repr

def isSpace (c : Char) : Bool := c = ' ' || c = '\t' || c = '\n' || c = '\r'

def Cursor.skip (c : Cursor) : Cursor :=
  ⟨c.rest.dropWhile isSpace, c.pos + (c.rest.takeWhile isSpace).length⟩

def hexValue? (c : Char) : Option Nat :=
  let n := c.toNat
  if 0x30 ≤ n && n ≤ 0x39 then some (n - 0x30)
  else if 0x41 ≤ n && n ≤ 0x46 then some (n - 0x41 + 10)
  else if 0x61 ≤ n && n ≤ 0x66 then some (n - 0x61 + 10)
  else none

def unit? : List Char → Option Nat
  | a :: b :: c :: d :: _ => do
    return (((← hexValue? a) * 16 + (← hexValue? b)) * 16 + (← hexValue? c)) * 16 + (← hexValue? d)
  | _ => none

def isHigh (unit : Nat) : Bool := 0xD800 ≤ unit && unit < 0xDC00
def isLow (unit : Nat) : Bool := 0xDC00 ≤ unit && unit < 0xE000

/-- The character of a unit that stands alone. -/
def unitChar (unit : Nat) : Char :=
  if isHigh unit || isLow unit then Text.surrogate unit else Char.ofNat unit

/-- The escape after a backslash at `pos`, as its character and how many characters it has. -/
def escape (start pos : Nat) : List Char → Except Fault (Char × Nat)
  | [] => .error (.mistake .unterminated start)
  | 'u' :: rest =>
    if rest.length < 5 then .error (.mistake .unit (pos + 1))
    else match unit? rest with
      | none => .error (.mistake .unit (pos + 1))
      | some high =>
        match rest.drop 4 with
        | '\\' :: 'u' :: more =>
          if isHigh high && 5 ≤ more.length then
            match unit? more with
            | none => .error (.mistake .unit (pos + 7))
            | some low =>
              if isLow low then
                .ok (Char.ofNat (0x10000 + (high - 0xD800) * 0x400 + (low - 0xDC00)), 11)
              else .ok (unitChar high, 5)
          else .ok (unitChar high, 5)
        | _ => .ok (unitChar high, 5)
  | '"' :: _ => .ok ('"', 1)
  | '\\' :: _ => .ok ('\\', 1)
  | '/' :: _ => .ok ('/', 1)
  | 'b' :: _ => .ok (Char.ofNat 8, 1)
  | 'f' :: _ => .ok (Char.ofNat 12, 1)
  | 'n' :: _ => .ok ('\n', 1)
  | 'r' :: _ => .ok ('\r', 1)
  | 't' :: _ => .ok ('\t', 1)
  | _ :: _ => .error (.mistake .escape pos)

/-- The text of a string whose opening quote stands at `start`; `skip` counts the characters of an
escape that are still to be passed, and `read` holds the text so far, last character first. -/
def readString (start : Nat) :
    (skip pos : Nat) → (read : List Char) → List Char → Except Fault (List Char × Cursor)
  | _, _, _, [] => .error (.mistake .unterminated start)
  | skip + 1, pos, read, _ :: rest => readString start skip (pos + 1) read rest
  | 0, pos, read, c :: rest =>
    if c = '"' then .ok (read.reverse, ⟨rest, pos + 1⟩)
    else if c = '\\' then
      match escape start pos rest with
      | .error e => .error e
      | .ok (char, count) => readString start count (pos + 1) (char :: read) rest
    else if c.toNat ≤ 0x1F then .error (.mistake .control pos)
    else readString start 0 (pos + 1) (c :: read) rest

def isAsciiDigit (c : Char) : Bool := '0' ≤ c && c ≤ '9'

/-- The whole part of a number: a single zero, or digits that start with another one. -/
def wholeDigits : List Char → List Char
  | '0' :: _ => ['0']
  | s => s.takeWhile isAsciiDigit

def fractionDigits : List Char → List Char
  | '.' :: rest => rest.takeWhile isAsciiDigit
  | _ => []

/-- The exponent: how many characters it has, and its value. It must have digits. -/
def exponent? : List Char → Option (Nat × Int)
  | c :: rest =>
    if c = 'e' || c = 'E' then
      let (negative, signs, rest) := match rest with
        | '-' :: more => (true, 1, more)
        | '+' :: more => (false, 1, more)
        | _ => (false, 0, rest)
      let digits := rest.takeWhile isAsciiDigit
      if digits.isEmpty then none
      else
        let e : Int := Text.natOfDigits digits
        some (1 + signs + digits.length, if negative then -e else e)
    else none
  | [] => none

/-- A number, or nothing where none starts. -/
def readNumber (c : Cursor) : Except Fault (Json × Cursor) :=
  let (negative, signs, rest) := match c.rest with
    | '-' :: more => (true, 1, more)
    | _ => (false, 0, c.rest)
  let whole := wholeDigits rest
  if whole.isEmpty then .error (.mistake .value c.pos)
  else
    let rest := rest.drop whole.length
    let fraction := fractionDigits rest
    let point := if fraction.isEmpty then 0 else fraction.length + 1
    let rest := rest.drop point
    let exponent := exponent? rest
    let marks := (exponent.map (·.1)).getD 0
    let next : Cursor := ⟨rest.drop marks, c.pos + signs + whole.length + point + marks⟩
    if fraction.isEmpty && exponent.isNone then
      match Text.readNumeral whole with
      | .error e => .error (.numeral e)
      | .ok n => .ok (.int (if negative then -n else n), next)
    else
      let e := (exponent.map (·.2)).getD 0
      let digits := Text.natOfDigits (whole ++ fraction)
      .ok (.float (Binary64.ofDecimal negative digits (e - fraction.length)), next)

def words : List (String × Json) := [
  ("null", .null), ("true", .bool true), ("false", .bool false), ("NaN", .float .nan),
  ("Infinity", .float (.infinite false)), ("-Infinity", .float (.infinite true))]

def readWord? (c : Cursor) : Option (Json × Cursor) :=
  words.findSome? fun (word, value) =>
    if word.toList.isPrefixOf c.rest then
      some (value, ⟨c.rest.drop word.length, c.pos + word.length⟩)
    else none

mutual

/-- A value. The fuel bounds the steps, which the length of the document does too; `depth` is how
many containers may still be opened. -/
def readValue : (fuel depth : Nat) → Cursor → Except Fault (Json × Cursor)
  | 0, _, c => .error (.mistake .value c.pos)
  | fuel + 1, depth, c =>
    match c.rest with
    | [] => .error (.mistake .value c.pos)
    | '"' :: rest => do
      let (s, next) ← readString c.pos 0 (c.pos + 1) [] rest
      return (.str (String.ofList s), next)
    | '{' :: rest =>
      match depth with
      | 0 => .error (.nesting .object)
      | depth + 1 =>
        let inner := Cursor.skip ⟨rest, c.pos + 1⟩
        match inner.rest with
        | '}' :: after => .ok (.obj [], ⟨after, inner.pos + 1⟩)
        | _ => readMembers fuel depth [] inner
    | '[' :: rest =>
      match depth with
      | 0 => .error (.nesting .array)
      | depth + 1 =>
        let inner := Cursor.skip ⟨rest, c.pos + 1⟩
        match inner.rest with
        | ']' :: after => .ok (.arr [], ⟨after, inner.pos + 1⟩)
        | _ => readItems fuel depth [] inner
    | _ => match readWord? c with
      | some read => .ok read
      | none => readNumber c

def readItems : (fuel depth : Nat) → (read : List Json) → Cursor → Except Fault (Json × Cursor)
  | 0, _, _, c => .error (.mistake .value c.pos)
  | fuel + 1, depth, read, c => do
    let (item, next) ← readValue fuel depth c
    let next := next.skip
    match next.rest with
    | ']' :: after => return (.arr (item :: read).reverse, ⟨after, next.pos + 1⟩)
    | ',' :: after => readItems fuel depth (item :: read) (Cursor.skip ⟨after, next.pos + 1⟩)
    | _ => throw (.mistake .comma next.pos)

def readMembers : (fuel depth : Nat) → (read : List (String × Json)) → Cursor →
    Except Fault (Json × Cursor)
  | 0, _, _, c => .error (.mistake .value c.pos)
  | fuel + 1, depth, read, c =>
    match c.rest with
    | '"' :: rest => do
      let (name, next) ← readString c.pos 0 (c.pos + 1) [] rest
      let next := next.skip
      match next.rest with
      | ':' :: after =>
        let (value, next) ← readValue fuel depth (Cursor.skip ⟨after, next.pos + 1⟩)
        let read := put read (String.ofList name) value
        let next := next.skip
        match next.rest with
        | '}' :: after => return (.obj read, ⟨after, next.pos + 1⟩)
        | ',' :: after => readMembers fuel depth read (Cursor.skip ⟨after, next.pos + 1⟩)
        | _ => throw (.mistake .comma next.pos)
      | _ => throw (.mistake .colon next.pos)
    | _ => .error (.mistake .name c.pos)

end

def read (doc : List Char) : Except Fault Json :=
  match doc with
  | '\uFEFF' :: _ => .error (.mistake .byteOrderMark 0)
  | _ => do
    let (value, next) ← readValue (2 * doc.length + 2) nestingLimit (Cursor.skip ⟨doc, 0⟩)
    let next := next.skip
    if next.rest.isEmpty then return value
    else throw (.mistake .extra next.pos)

end PageBuild.Json
