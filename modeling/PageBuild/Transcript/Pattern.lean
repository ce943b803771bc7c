import PageBuild.Number.Decimal
import PageBuild.Transcript

/-! The patterns that every format of transcripts shares, as properties of a line: numerals, words
behind a numeral, and caret lines. -/
namespace PageBuild.Transcript

def IsNumeral (digits : List Char) : Prop :=
  digits ≠ [] ∧ ∀ c ∈ digits, Text.isDigit c = true

instance (digits : List Char) : Decidable (IsNumeral digits) :=
  haveI : Decidable (∀ c ∈ digits, Text.isDigit c = true) := List.decidableBAll _ digits
  inferInstanceAs (Decidable (_ ∧ _))

theorem isNumeral_ofNat (n : Nat) : IsNumeral (Decimal.ofNat n) := by
  refine ⟨Decimal.ofNat_ne_nil n, ?_⟩
  intro c hc
  have value := Text.digitValue?_of_isDigit (Decimal.isDigit_of_mem_ofNat hc)
  rw [Text.isDigit, value]
  rfl

theorem IsNumeral.exists_cons {digits : List Char} (h : IsNumeral digits) :
    ∃ c rest, digits = c :: rest ∧ Text.isDigit c = true := by
  obtain ⟨hne, hdigits⟩ := h
  cases digits with
  | nil => contradiction
  | cons c rest => exact ⟨c, rest, rfl, hdigits c List.mem_cons_self⟩

theorem IsNumeral.not_mem {digits : List Char} (h : IsNumeral digits) {c : Char}
    (hc : Text.isDigit c = false) : c ∉ digits := by
  intro member
  rw [h.2 c member] at hc
  contradiction

theorem IsNumeral.unbroken {digits : List Char} (h : IsNumeral digits) : Text.Unbroken digits := by
  intro c hc
  exact Text.isLineEnd_eq_false (Text.isBlank_of_isDigit (h.2 c hc))

/-- The digits in front of a character that is none are taken as a whole. -/
theorem numbered?_append {digits : List Char} {c : Char} (h : IsNumeral digits)
    (hc : Text.isDigit c = false) (words rest : List Char) :
    numbered? (c :: words) (digits ++ (c :: words ++ rest)) = some (digits, rest) := by
  have taken : (digits ++ (c :: words ++ rest)).takeWhile Text.isDigit = digits := by
    rw [List.takeWhile_append_of_pos h.2]
    simp [hc]
  have dropped : (digits ++ (c :: words ++ rest)).drop digits.length = c :: words ++ rest :=
    List.drop_left
  simp only [numbered?, taken, dropped, Text.after?_append]
  simp [h.1]

theorem numbered?_eq_some_iff {c : Char} {words s digits rest : List Char}
    (hc : Text.isDigit c = false) :
    numbered? (c :: words) s = some (digits, rest) ↔
      IsNumeral digits ∧ s = digits ++ (c :: words ++ rest) := by
  constructor
  · intro h
    simp only [numbered?] at h
    split at h
    · simp at h
    · next hne =>
      obtain ⟨after, hafter, hpair⟩ := Option.map_eq_some_iff.mp h
      obtain ⟨rfl, rfl⟩ := Prod.mk.inj hpair
      refine ⟨⟨by simpa using hne, List.all_eq_true.mp List.all_takeWhile⟩, ?_⟩
      rw [← Text.eq_append_of_after? hafter]
      exact (List.prefix_iff_eq_append.mp (List.takeWhile_prefix _)).symm
  · rintro ⟨hdigits, rfl⟩
    exact numbered?_append hdigits hc words rest

def caretLine (indent : List Char) (more : Nat) (back : List Char) : List Char :=
  indent ++ List.replicate (more + 1) '^' ++ back

/-- A line that holds carets in a row and otherwise blanks. -/
def IsCaretLine (line : List Char) : Prop :=
  ∃ indent more back, (∀ c ∈ indent, Text.isBlank c = true) ∧ (∀ c ∈ back, Text.isBlank c = true) ∧
    line = caretLine indent more back

theorem trim_caretLine {indent back : List Char} (more : Nat)
    (hindent : ∀ c ∈ indent, Text.isBlank c = true) (hback : ∀ c ∈ back, Text.isBlank c = true) :
    Text.trim Text.isBlank (caretLine indent more back) = List.replicate (more + 1) '^' := by
  rw [caretLine, Text.trim_append_run hback, Text.trim_run_append hindent]
  apply Text.trim_eq_self
  intro c hc
  rw [List.eq_of_mem_replicate hc]
  decide

theorem isCaret_caretLine {indent back : List Char} (more : Nat)
    (hindent : ∀ c ∈ indent, Text.isBlank c = true) (hback : ∀ c ∈ back, Text.isBlank c = true) :
    isCaret (caretLine indent more back) = true := by
  simp [isCaret, trim_caretLine more hindent hback]

theorem isCaret_iff {line : List Char} : isCaret line = true ↔ IsCaretLine line := by
  constructor
  · intro h
    obtain ⟨indent, back, hindent, hback, split⟩ :=
      Text.exists_eq_append_trim_append Text.isBlank line
    simp only [isCaret, Bool.and_eq_true, Bool.not_eq_true', List.isEmpty_eq_false_iff,
      List.all_eq_true, decide_eq_true_eq] at h
    obtain ⟨hne, hmarks⟩ := h
    have carets := List.eq_replicate_of_mem hmarks
    obtain ⟨more, hmore⟩ := Nat.exists_eq_succ_of_ne_zero (mt List.length_eq_zero_iff.mp hne)
    rw [hmore] at carets
    refine ⟨indent, more, back, hindent, hback, ?_⟩
    rw [caretLine, ← carets]
    exact split
  · rintro ⟨indent, more, back, hindent, hback, rfl⟩
    exact isCaret_caretLine more hindent hback

instance (line : List Char) : Decidable (IsCaretLine line) := decidable_of_iff _ isCaret_iff

/-- The column of a caret line is the one behind its indent. -/
theorem caretColumn_caretLine {indent : List Char} (more : Nat) (back : List Char)
    (h : ∀ c ∈ indent, Text.isBlank c = true) :
    caretColumn (caretLine indent more back) = indent.length + 1 := by
  have plain : ∀ c ∈ indent, decide (c ≠ '^') = true := by
    intro c hc
    rw [decide_eq_true_eq]
    rintro rfl
    exact absurd (h _ hc) (by decide)
  rw [caretColumn, caretLine, List.append_assoc, List.takeWhile_append_of_pos plain]
  simp [List.replicate_succ]

@[simp] theorem isCaret_trimRight (line : List Char) :
    isCaret (Text.trimRight Text.isBlank line) = isCaret line := by
  simp [isCaret]

end PageBuild.Transcript
