import PageBuild.Number.Decimal

/-! Floating-point numbers of sixty-four bits, as exact values: a finite one is its sign, a
mantissa below `2 ^ 53` and a binary exponent. A decimal is read as the nearest of them and written
with the fewest digits that are read back. -/
namespace PageBuild

inductive Binary64
  | nan
  | infinite (negative : Bool)
  | finite (negative : Bool) (mantissa : Nat) (exponent : Int)
  deriving DecidableEq, Repr

namespace Binary64

/-- The exponent of the smallest positive number. -/
def leastExponent : Int := -1074

/-- The largest exponent of a finite number with a full mantissa. -/
def greatestExponent : Int := 971

def zero : Binary64 := .finite false 0 leastExponent

/-- The number nearest to `num / den`; a tie goes to the even mantissa, and what is too large is
infinite. -/
def ofRatio (negative : Bool) (num den : Nat) : Binary64 :=
  if num = 0 then .finite negative 0 leastExponent
  else
    let shifted (e : Int) : Nat × Nat :=
      if 0 ≤ e then (num, den * Nat.pow 2 e.toNat) else (num * Nat.pow 2 (-e).toNat, den)
    let low : Int := max (num.log2 - den.log2 - 53) leastExponent
    let (n, d) := shifted low
    let e := if n / d < Nat.pow 2 53 then low else low + 1
    let (n, d) := shifted e
    let m := Decimal.roundDiv n d
    let (m, e) := if m < Nat.pow 2 53 then (m, e) else (Nat.pow 2 52, e + 1)
    if greatestExponent < e then .infinite negative else .finite negative m e

/-- The number nearest to `digits * 10 ^ exponent`. Far outside the range the answer is plain, and
no large power is formed. -/
def ofDecimal (negative : Bool) (digits : Nat) (exponent : Int) : Binary64 :=
  let size : Int := Decimal.length digits + exponent
  if digits = 0 || size < -330 then .finite negative 0 leastExponent
  else if 310 < size then .infinite negative
  else
    let (num, den) := Decimal.scale digits 1 exponent
    ofRatio negative num den

def ofInt (n : Int) : Binary64 := ofRatio (n < 0) n.natAbs 1

def fraction (mantissa : Nat) (exponent : Int) : Nat × Nat :=
  if 0 ≤ exponent then (mantissa * Nat.pow 2 exponent.toNat, 1)
  else (mantissa, Nat.pow 2 (-exponent).toNat)

def toInt? : Binary64 → Option Int
  | .finite negative mantissa exponent =>
    let (num, den) := fraction mantissa exponent
    if num % den = 0 then some (if negative then -↑(num / den) else ↑(num / den)) else none
  | _ => none

def isFinite : Binary64 → Bool
  | .finite .. => true
  | _ => false

/-- The fewest decimal digits, with their exponent, that are read back as a positive number; of
two candidates of one length the nearer. -/
def shortest (mantissa : Nat) (exponent : Int) : Nat × Int :=
  let (num, den) := fraction mantissa exponent
  let k := Decimal.magnitude num den
  let back (digits : Nat) (e : Int) : Bool :=
    ofDecimal false digits e == .finite false mantissa exponent
  let candidate? (count : Nat) : Option (Nat × Int) :=
    let e : Int := k - count
    let (n, d) := Decimal.scale num den (-e)
    let below := n / d
    let nearest := Decimal.roundDiv n d
    let other := if nearest = below then below + 1 else below
    let carried (digits : Nat) : Nat × Int :=
      if digits = Nat.pow 10 count then (1, k) else (digits, e)
    if back nearest e then some (carried nearest)
    else if back other e then some (carried other)
    else none
  ((List.range 17).findSome? fun i => candidate? (i + 1)).getD (Decimal.roundDiv num den, 0)

/-- The layout of shortest digits: positional from `10 ^ -4` up to `10 ^ 16` and always with a
point, else with a signed exponent of at least two digits. -/
def layout (digits : Nat) (exponent : Int) : List Char :=
  let ds := Decimal.ofNat digits
  let point : Int := ds.length + exponent
  if -4 < point && point ≤ 16 then
    if point ≤ 0 then ['0', '.'] ++ List.replicate (-point).toNat '0' ++ ds
    else if (ds.length : Int) ≤ point then
      ds ++ List.replicate (point - ds.length).toNat '0' ++ ['.', '0']
    else ds.take point.toNat ++ '.' :: ds.drop point.toNat
  else
    let e := point - 1
    let mark := if e < 0 then ['e', '-'] else ['e', '+']
    let tail := Decimal.ofNat e.natAbs
    ds.take 1 ++ (if ds.length = 1 then [] else '.' :: ds.drop 1) ++ mark ++
      List.replicate (2 - tail.length) '0' ++ tail

def text : Binary64 → String
  | .nan => "nan"
  | .infinite negative => if negative then "-inf" else "inf"
  | .finite negative mantissa exponent =>
    let body :=
      if mantissa = 0 then ['0', '.', '0']
      else
        let (digits, e) := shortest mantissa exponent
        layout digits e
    String.ofList (if negative then '-' :: body else body)

end Binary64
end PageBuild
