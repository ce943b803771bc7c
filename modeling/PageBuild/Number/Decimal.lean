import PageBuild.Text.Digit

/-! Decimal numerals and rounding of quotients. Numerals have no leading zeros, and those that are
too long are not written; a quotient is rounded to the nearest whole number, and a tie goes to the
even one. -/
namespace PageBuild.Decimal

def ofNat (n : Nat) : List Char := Nat.toDigits 10 n

def ofInt (n : Int) : List Char :=
  if n < 0 then '-' :: ofNat n.natAbs else ofNat n.natAbs

def text (n : Int) : String := String.ofList (ofInt n)

theorem ofNat_ne_nil (n : Nat) : ofNat n ≠ [] := Nat.toDigits_ne_nil

theorem isDigit_of_mem_ofNat {n : Nat} {c : Char} (h : c ∈ ofNat n) : c.isDigit = true :=
  Nat.isDigit_of_mem_toDigits (by decide) (by decide) h

theorem ofDigitChars_ofNat (n : Nat) : Nat.ofDigitChars 10 (ofNat n) 0 = n :=
  Nat.ofDigitChars_ten_toDigits

@[simp] theorem text_natCast (n : Nat) : (text n).toList = ofNat n := by
  simp [text, ofInt]

theorem isDigit_or_minus_of_mem_text {n : Int} {c : Char} (h : c ∈ (text n).toList) :
    c.isDigit = true ∨ c = '-' := by
  simp only [text, ofInt, String.toList_ofList] at h
  split at h
  · rcases List.mem_cons.mp h with h | h
    · exact .inr h
    · exact .inl (isDigit_of_mem_ofNat h)
  · exact .inl (isDigit_of_mem_ofNat h)

/-- How many digits the numeral of a number has; zero has one. -/
def length (n : Nat) : Nat := (ofNat n).length

/-- The least number with more digits than these; no proof works it out. -/
@[irreducible] def beyond (digits : Nat) : Nat := Nat.pow 10 digits

theorem one_le_beyond (digits : Nat) : 1 ≤ beyond digits := by
  unfold beyond
  exact Nat.pow_pos (by decide)

theorem lt_length_beyond {digits : Nat} (positive : 0 < digits) :
    digits < length (beyond digits) := by
  unfold beyond length
  refine Nat.lt_of_not_le fun le => ?_
  have lower := (Nat.length_toDigits_le_iff (by decide) positive).mp le
  exact Nat.lt_irrefl _ lower

structure Overlong where
  deriving DecidableEq, Repr

def Overlong.message : Overlong → String
  | {} =>
    s!"Exceeds the limit ({Text.numeralLimit} digits) for integer string conversion; use sys.set_int_max_str_digits() to increase the limit"

def IsShort (n : Int) : Prop := length n.natAbs ≤ Text.numeralLimit

instance (n : Int) : Decidable (IsShort n) := inferInstanceAs (Decidable (_ ≤ _))

def written (n : Int) : Except Overlong String := if IsShort n then .ok (text n) else .error {}

def overlong : Nat := beyond Text.numeralLimit

theorem not_isShort_overlong : ¬ IsShort overlong := by
  rw [IsShort, Int.natAbs_natCast]
  exact Nat.not_le.mpr (lt_length_beyond (by decide))

theorem written_eq_ok_iff {n : Int} {s : String} : written n = .ok s ↔ IsShort n ∧ s = text n := by
  unfold written
  split <;> simp [*, eq_comm]

def roundDiv (num den : Nat) : Nat :=
  let quotient := num / den
  let rest := num % den
  if 2 * rest < den then quotient
  else if den < 2 * rest then quotient + 1
  else quotient + quotient % 2

/-- A tenth power as a factor of a numerator or a denominator, by the sign of its exponent. -/
def scale (num den : Nat) (exponent : Int) : Nat × Nat :=
  if 0 ≤ exponent then (num * Nat.pow 10 exponent.toNat, den)
  else (num, den * Nat.pow 10 (-exponent).toNat)

/-- The exponent `k` with `10 ^ (k - 1) ≤ num / den < 10 ^ k`, for positive `num` and `den`. -/
def magnitude (num den : Nat) : Int :=
  let guess : Int := length num - length den
  let (n, d) := scale num den (-guess)
  if d ≤ n then guess + 1 else guess

end PageBuild.Decimal
