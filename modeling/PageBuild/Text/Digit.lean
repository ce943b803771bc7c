import PageBuild.Text.Blank

/-! Decimal digits of every script. The digits of a script stand at ten consecutive code points,
so a table of the zeros settles both what a digit is and what it is worth. -/
namespace PageBuild.Text

/-- The code points of the digit zero, in ascending order; there are sixty-six. -/
def digitZeros : List Nat := [
  0x30, 0x660, 0x6F0, 0x7C0, 0x966, 0x9E6, 0xA66, 0xAE6, 0xB66, 0xBE6, 0xC66, 0xCE6, 0xD66,
  0xDE6, 0xE50, 0xED0, 0xF20, 0x1040, 0x1090, 0x17E0, 0x1810, 0x1946, 0x19D0, 0x1A80, 0x1A90,
  0x1B50, 0x1BB0, 0x1C40, 0x1C50, 0xA620, 0xA8D0, 0xA900, 0xA9D0, 0xA9F0, 0xAA50, 0xABF0, 0xFF10,
  0x104A0, 0x10D30, 0x11066, 0x110F0, 0x11136, 0x111D0, 0x112F0, 0x11450, 0x114D0, 0x11650,
  0x116C0, 0x11730, 0x118E0, 0x11950, 0x11C50, 0x11D50, 0x11DA0, 0x16A60, 0x16AC0, 0x16B50,
  0x1D7CE, 0x1D7D8, 0x1D7E2, 0x1D7EC, 0x1D7F6, 0x1E140, 0x1E2F0, 0x1E950, 0x1FBF0]

def digitValue? (c : Char) : Option Nat :=
  (digitZeros.find? fun base => base ≤ c.toNat && c.toNat < base + 10).map (c.toNat - ·)

def isDigit (c : Char) : Bool := (digitValue? c).isSome

example : digitZeros.length = 66 := by decide

theorem digitValue?_lt {c : Char} {n : Nat} (h : digitValue? c = some n) : n < 10 := by
  simp only [digitValue?, Option.map_eq_some_iff] at h
  obtain ⟨base, hfind, rfl⟩ := h
  have hz := List.find?_some hfind
  simp only [Bool.and_eq_true, decide_eq_true_eq] at hz
  omega

/-- No digit is a blank. -/
theorem isBlank_of_isDigit {c : Char} (h : isDigit c = true) : isBlank c = false := by
  -- The zeros are far enough from the blanks for all ten digits to fit in between.
  have apart : ∀ base ∈ digitZeros, 32 < base ∧ (base + 10 ≤ 0x85 ∨ 0xA0 < base) ∧
      (base + 10 ≤ 0x1680 ∨ 0x1680 < base) ∧ (base + 10 ≤ 0x2000 ∨ 0x3000 < base) := by decide
  simp only [isDigit, digitValue?, Option.isSome_map, Option.isSome_iff_exists] at h
  obtain ⟨base, hfind⟩ := h
  have hbase := apart base (List.mem_of_find?_eq_some hfind)
  have hrange := List.find?_some hfind
  simp only [Bool.and_eq_true, decide_eq_true_eq] at hrange
  rw [← Bool.not_eq_true]
  simp only [isBlank, Bool.or_eq_true, Bool.and_eq_true, decide_eq_true_eq, beq_iff_eq]
  omega

def natOfDigits (digits : List Char) : Nat :=
  digits.foldl (fun n c => 10 * n + (digitValue? c).getD 0) 0

theorem digitValue?_of_isDigit {c : Char} (h : c.isDigit = true) :
    digitValue? c = some (c.toNat - 48) := by
  have range : 48 ≤ c.toNat ∧ c.toNat < 48 + 10 := by
    simp only [Char.isDigit, Bool.and_eq_true, decide_eq_true_eq] at h
    exact ⟨h.1, Nat.lt_succ_of_le h.2⟩
  simp [digitValue?, digitZeros, range]

structure LongNumeral where
  digits : Nat
  deriving DecidableEq, Repr

def numeralLimit : Nat := 4300

def LongNumeral.message (e : LongNumeral) : String :=
  s!"Exceeds the limit ({numeralLimit} digits) for integer string conversion: value has {e.digits} digits; use sys.set_int_max_str_digits() to increase the limit"

/-- Reads a numeral within the limit; leading zeros count. -/
def readNumeral (digits : List Char) : Except LongNumeral Nat :=
  if digits.length ≤ numeralLimit then .ok (natOfDigits digits) else .error ⟨digits.length⟩

theorem readNumeral_of_le {digits : List Char} (h : digits.length ≤ numeralLimit) :
    readNumeral digits = .ok (natOfDigits digits) := by
  simp [readNumeral, h]

end PageBuild.Text
