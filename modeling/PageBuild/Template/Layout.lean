import PageBuild.Number.Binary64
import PageBuild.Template.Spec

/-! Laying out texts and whole numbers. A text is cut to its precision and padded; a number has a
sign, a prefix of its base, grouped digits and what follows them, and the padding goes before,
after, around, or between the sign and the digits. -/
namespace PageBuild.Template

inductive LayoutFault
  | mistake (m : Mistake)
  | overflow
  deriving DecidableEq, Repr

def padding (fill : Char) (count : Nat) : List Char := List.replicate count fill

def aligned (spec : Spec) (s : List Char) : List Char :=
  let missing := spec.width.getD 0 - s.length
  match spec.align with
  | .left => s ++ padding spec.fill missing
  | .center => padding spec.fill (missing / 2) ++ s ++ padding spec.fill (missing - missing / 2)
  | _ => padding spec.fill missing ++ s

def layoutText (spec : Spec) (s : List Char) : Except LayoutFault (List Char) :=
  if spec.presentation ≠ 's' then .error (.mistake (.presentation spec.presentation .text))
  else if let some sign := spec.sign then
    .error (.mistake (if sign = ' ' then .textSpace else .textSign))
  else if spec.negativeZero then .error (.mistake .textNegativeZero)
  else if spec.alternate then .error (.mistake .textAlternate)
  else if spec.align = .padSign then .error (.mistake .textPadSign)
  else .ok (aligned spec (match spec.precision with
    | some n => s.take n
    | none => s))

/-- Digits, last first, in groups of a size with a separator between them; zeros are put before
them until there are as many characters as asked for. The budget bounds the groups. -/
def groupsFromLast (size : Nat) (sep : List Char) :
    (budget : Nat) → (wanted : Int) → List Char → List Char
  | 0, _, digits => digits
  | budget + 1, wanted, digits =>
    let length := min size (max (max digits.length wanted.toNat) 1)
    let group := digits.take length
    let zeros := padding '0' (length - group.length)
    let rest := digits.drop length
    let wanted := wanted - length
    if rest.isEmpty && wanted ≤ 0 then group ++ zeros
    else group ++ zeros ++ sep ++ groupsFromLast size sep budget (wanted - sep.length) rest

def grouped (separator : Option Char) (size : Nat) (wanted : Int) (digits : List Char) :
    List Char :=
  match separator with
  | some sep =>
    (groupsFromLast size [sep] (digits.length + wanted.toNat + 1) wanted digits.reverse).reverse
  | none => padding '0' (wanted.toNat - digits.length) ++ digits

structure Pieces where
  negative : Bool
  base : List Char := []
  digits : List Char
  tail : List Char := []
  groupSize : Nat := 3

def signOf (spec : Spec) (negative : Bool) : List Char :=
  if negative then ['-']
  else match spec.sign with
    | some '+' => ['+']
    | some ' ' => [' ']
    | _ => []

def layoutPieces (spec : Spec) (p : Pieces) : List Char :=
  let sign := signOf spec p.negative
  let width := spec.width.getD 0
  let around := sign.length + p.base.length + p.tail.length
  let wanted : Int :=
    if spec.fill = '0' && spec.align = .padSign then (width : Int) - around else 0
  let digits :=
    if p.digits.isEmpty then [] else grouped spec.separator p.groupSize wanted p.digits
  let missing := width - (around + digits.length)
  let body := digits ++ p.tail
  match spec.align with
  | .left => sign ++ p.base ++ body ++ padding spec.fill missing
  | .right => padding spec.fill missing ++ sign ++ p.base ++ body
  | .center =>
    padding spec.fill (missing / 2) ++ sign ++ p.base ++ body ++
      padding spec.fill (missing - missing / 2)
  | .padSign => sign ++ p.base ++ padding spec.fill missing ++ body

def fixedDigits (num den places : Nat) : List Char × List Char :=
  let digits := Decimal.ofNat (Decimal.roundDiv (num * Nat.pow 10 places) den)
  let digits := padding '0' (places + 1 - digits.length) ++ digits
  (digits.take (digits.length - places), digits.drop (digits.length - places))

/-- The leading digits of a positive fraction and the exponent of the first of them. -/
def leadingDigits (num den count : Nat) : List Char × Int :=
  let k := Decimal.magnitude num den
  let (n, d) := Decimal.scale num den (count - k)
  let rounded := Decimal.roundDiv n d
  if rounded = Nat.pow 10 count then (Decimal.ofNat (Nat.pow 10 (count - 1)), k)
  else (Decimal.ofNat rounded, k - 1)

def exponentText (mark : Char) (e : Int) : List Char :=
  let digits := Decimal.ofNat e.natAbs
  mark :: (if e < 0 then '-' else '+') :: padding '0' (2 - digits.length) ++ digits

/-- A point before the places, left out where there are none unless it is asked for. -/
def pointed (alternate : Bool) (places : List Char) : List Char :=
  if places.isEmpty && !alternate then [] else '.' :: places

def dropZeros (alternate : Bool) (places : List Char) : List Char :=
  if alternate then places else (places.reverse.dropWhile (· = '0')).reverse

def presentFraction (spec : Spec) (num den : Nat) : List Char × List Char :=
  let precision := spec.precision.getD 6
  let lowered := spec.presentation.toLower
  let mark := if spec.presentation = lowered then 'e' else 'E'
  if lowered = 'f' || lowered = '%' then
    let (whole, places) := fixedDigits num den precision
    (whole, pointed spec.alternate places ++ if lowered = '%' then ['%'] else [])
  else if lowered = 'e' then
    let (digits, e) :=
      if num = 0 then (padding '0' (precision + 1), 0) else leadingDigits num den (precision + 1)
    (digits.take 1, pointed spec.alternate (digits.drop 1) ++ exponentText mark e)
  else
    let count := max precision 1
    let (digits, e) := if num = 0 then (padding '0' count, 0) else leadingDigits num den count
    if -4 ≤ e && e < count then
      if e < 0 then
        let places := padding '0' ((-e).toNat - 1) ++ digits
        (['0'], pointed spec.alternate (dropZeros spec.alternate places))
      else
        let whole := e.toNat + 1
        (digits.take whole, pointed spec.alternate (dropZeros spec.alternate (digits.drop whole)))
    else
      (digits.take 1,
        pointed spec.alternate (dropZeros spec.alternate (digits.drop 1)) ++ exponentText mark e)

def precisionLimit : Nat := Nat.pow 2 31

/-- A whole number as a floating-point one; a percentage is a hundred times it. -/
def layoutFraction (spec : Spec) (n : Int) : Except LayoutFault (List Char) :=
  match Binary64.ofInt n with
  | .finite _ mantissa exponent =>
    if precisionLimit ≤ spec.precision.getD 0 then .error (.mistake .largePrecision)
    else
      let (num, den) := Binary64.fraction mantissa exponent
      let percent := if spec.presentation = '%' then 100 else 1
      match Binary64.ofRatio false (num * percent) den with
      | .finite _ mantissa exponent =>
        let (num, den) := Binary64.fraction mantissa exponent
        let (digits, tail) := presentFraction spec num den
        .ok (layoutPieces spec { negative := n < 0, digits, tail })
      | _ => .ok (layoutPieces spec { negative := n < 0, digits := [], tail := "inf%".toList })
  | _ => .error .overflow

def layoutChar (spec : Spec) (n : Int) : Except LayoutFault (List Char) :=
  if spec.sign.isSome then .error (.mistake .charSign)
  else if spec.alternate then .error (.mistake .charAlternate)
  else if n < 0 || 0x110000 ≤ n then .error .overflow
  else
    let code := n.toNat
    let c := if Nat.isValidChar code then Char.ofNat code else Char.ofNat 0xFFFD
    .ok (layoutPieces spec { negative := false, digits := [], tail := [c] })

/-- A whole number in a base, with the prefix of the base in the alternate form. -/
def layoutBase (spec : Spec) (n : Int) (radix : Nat) (baseMark : Char) : List Char :=
  let digits := Nat.toDigits radix n.natAbs
  let digits := if baseMark = 'X' then digits.map Char.toUpper else digits
  layoutPieces spec {
    negative := n < 0, digits, groupSize := 4
    base := if spec.alternate then ['0', baseMark] else [] }

def layoutInt (spec : Spec) (n : Int) : Except LayoutFault (List Char) :=
  if "eEfFgG%".toList.contains spec.presentation then layoutFraction spec n
  else if !"bcdoxXn".toList.contains spec.presentation then
    .error (.mistake (.presentation spec.presentation .int))
  else if spec.precision.isSome then .error (.mistake .intPrecision)
  else if spec.negativeZero then .error (.mistake .intNegativeZero)
  else match spec.presentation with
    | 'c' => layoutChar spec n
    | 'b' => .ok (layoutBase spec n 2 'b')
    | 'o' => .ok (layoutBase spec n 8 'o')
    | 'x' => .ok (layoutBase spec n 16 'x')
    | 'X' => .ok (layoutBase spec n 16 'X')
    | _ =>
      let digits := Decimal.ofNat n.natAbs
      if Text.numeralLimit < digits.length then .error (.mistake .longNumeral)
      else .ok (layoutPieces spec { negative := n < 0, digits })

end PageBuild.Template
