import PageBuild.Number.Decimal

/-! How a value is laid out in the place of a template: fill and alignment, sign, width, grouping
of digits, precision and presentation, in that order and each optional. -/
namespace PageBuild.Template

inductive Align
  | left
  | right
  | center
  | padSign
  deriving DecidableEq, Repr

def Align.ofChar? : Char → Option Align
  | '<' => some .left
  | '>' => some .right
  | '^' => some .center
  | '=' => some .padSign
  | _ => none

inductive Subject
  | text
  | int
  deriving DecidableEq, Repr

def Subject.name : Subject → String
  | .text => "str"
  | .int => "int"

inductive Mistake
  | loneOpen
  | loneClose
  | openInName
  | noClose
  | noConversion
  | noColon
  | openSpec
  | afterBracket
  | emptyAttribute
  | noBracket
  | manyDigits
  | toAutomatic
  | toManual
  | tooDeep
  | conversion (c : Char)
  | bothSeparators
  | separator (sep presentation : Char)
  | noPrecision
  | spec (text : String) (sort : Subject)
  | presentation (c : Char) (sort : Subject)
  | textSpace
  | textSign
  | textNegativeZero
  | textAlternate
  | textPadSign
  | intPrecision
  | intNegativeZero
  | charSign
  | charAlternate
  | largePrecision
  | longNumeral
  deriving DecidableEq, Repr

/-- A character inside a message: in quotes if it is visible ASCII, else by its code point. -/
def shown (c : Char) (limit : Nat) : String :=
  if 32 < c.toNat && c.toNat < limit then String.ofList [c]
  else "\\x" ++ String.ofList (Nat.toDigits 16 c.toNat)

def Mistake.message : Mistake → String
  | .loneOpen => "Single '\x7b' encountered in format string"
  | .loneClose => "Single '\x7d' encountered in format string"
  | .openInName => "unexpected '\x7b' in field name"
  | .noClose => "expected '\x7d' before end of string"
  | .noConversion => "end of string while looking for conversion specifier"
  | .noColon => "expected ':' after conversion specifier"
  | .openSpec => "unmatched '\x7b' in format spec"
  | .afterBracket => "Only '.' or '[' may follow ']' in format field specifier"
  | .emptyAttribute => "Empty attribute in format string"
  | .noBracket => "Missing ']' in format string"
  | .manyDigits => "Too many decimal digits in format string"
  | .toAutomatic => "cannot switch from manual field specification to automatic field numbering"
  | .toManual => "cannot switch from automatic field numbering to manual field specification"
  | .tooDeep => "Max string recursion exceeded"
  | .conversion c => "Unknown conversion specifier " ++ shown c 127
  | .bothSeparators => "Cannot specify both ',' and '_'."
  | .separator sep c => "Cannot specify '" ++ String.ofList [sep] ++ "' with '" ++ shown c 128 ++ "'."
  | .noPrecision => "Format specifier missing precision"
  | .spec text sort =>
    "Invalid format specifier '" ++ text ++ "' for object of type '" ++ sort.name ++ "'"
  | .presentation c sort =>
    "Unknown format code '" ++ shown c 128 ++ "' for object of type '" ++ sort.name ++ "'"
  | .textSpace => "Space not allowed in string format specifier"
  | .textSign => "Sign not allowed in string format specifier"
  | .textNegativeZero => "Negative zero coercion (z) not allowed in string format specifier"
  | .textAlternate => "Alternate form (\x23) not allowed in string format specifier"
  | .textPadSign => "'=' alignment not allowed in string format specifier"
  | .intPrecision => "Precision not allowed in integer format specifier"
  | .intNegativeZero => "Negative zero coercion (z) not allowed in integer format specifier"
  | .charSign => "Sign not allowed with integer format specifier 'c'"
  | .charAlternate => "Alternate form (\x23) not allowed with integer format specifier 'c'"
  | .largePrecision => "precision too big"
  | .longNumeral => Decimal.Overlong.message {}

structure Spec where
  fill : Char
  align : Align
  sign : Option Char
  negativeZero : Bool
  alternate : Bool
  width : Option Nat
  separator : Option Char
  precision : Option Nat
  presentation : Char
  deriving DecidableEq, Repr

/-- Numbers in a template are below `2 ^ 63`. -/
def digitLimit : Nat := Nat.pow 2 63

def readNumber (s : List Char) : Except Mistake (Option Nat × List Char) :=
  let digits := s.takeWhile Text.isDigit
  if digits.isEmpty then .ok (none, s)
  else
    let n := Text.natOfDigits digits
    if n < digitLimit then .ok (some n, s.drop digits.length) else .error .manyDigits

def takeIf (wanted : Char → Bool) : List Char → Option Char × List Char
  | c :: rest => if wanted c then (some c, rest) else (none, c :: rest)
  | [] => (none, [])

/-- A fill character and an alignment, or an alignment alone. -/
def takeAlign : List Char → (Option Char × Option Align) × List Char
  | fill :: c :: rest =>
    match Align.ofChar? c with
    | some align => ((some fill, some align), rest)
    | none => match Align.ofChar? fill with
      | some align => ((none, some align), c :: rest)
      | none => ((none, none), fill :: c :: rest)
  | [c] => match Align.ofChar? c with
    | some align => ((none, some align), [])
    | none => ((none, none), [c])
  | [] => ((none, none), [])

def takeSeparator (s : List Char) : Except Mistake (Option Char × List Char) :=
  let (comma, s) := takeIf (· = ',') s
  let (underscore, s) := takeIf (· = '_') s
  if comma.isSome && underscore.isSome then .error .bothSeparators
  else if underscore.isSome && s.head? = some ',' then .error .bothSeparators
  else .ok (comma.or underscore, s)

def takePrecision : List Char → Except Mistake (Option Nat × List Char)
  | '.' :: rest => do
    let (n, rest) ← readNumber rest
    if n.isNone then throw .noPrecision
    return (n, rest)
  | s => .ok (none, s)

/-- A separator is for decimal presentations; an underscore also for the other bases. -/
def separatorFits (sep presentation : Char) : Bool :=
  "defgEG%F".toList.contains presentation || (sep = '_' && "boxX".toList.contains presentation)

def Spec.ofText (s : List Char) (sort : Subject) : Except Mistake Spec := do
  let (align, presentation) := match sort with
    | .text => (Align.left, 's')
    | .int => (Align.right, 'd')
  let ((fill?, align?), rest) := takeAlign s
  let (sign, rest) := takeIf (fun c => c = ' ' || c = '+' || c = '-') rest
  let (z, rest) := takeIf (· = 'z') rest
  let (hash, rest) := takeIf (· = '\x23') rest
  let (padded, rest) := if fill?.isNone then takeIf (· = '0') rest else (none, rest)
  let align := align?.getD (if padded.isSome && align = .right then .padSign else align)
  let (width, rest) ← readNumber rest
  let (separator, rest) ← takeSeparator rest
  let (precision, rest) ← takePrecision rest
  let presentation ← match rest with
    | [] => pure presentation
    | [c] => pure c
    | _ => throw (.spec (String.ofList s) sort)
  if let some sep := separator then
    if !separatorFits sep presentation then throw (.separator sep presentation)
  return {
    fill := fill?.getD (if padded.isSome then '0' else ' '), align, sign
    negativeZero := z.isSome, alternate := hash.isSome, width, separator, precision, presentation }

end PageBuild.Template
