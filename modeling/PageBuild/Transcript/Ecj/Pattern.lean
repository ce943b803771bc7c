import PageBuild.Transcript.Ecj
import PageBuild.Transcript.Pattern

/-! The lines of the Eclipse compiler by what they look like. A header is a number, the word for the
kind, a file and the place in it; the place ends the line, so the file is whatever stands before it.
A line that is neither a header nor a separator is ordinary. -/
namespace PageBuild.Transcript.Ecj

inductive Severity
  | error
  | warning
  | info
  deriving DecidableEq, Repr

def Severity.kind : Severity → Kind
  | .error => .error
  | .warning => .warning
  | .info => .note

def Severity.word : Severity → List Char
  | .error => "ERROR in ".toList
  | .warning => "WARNING in ".toList
  | .info => "INFO in ".toList

def placeWords : List Char := " (at line ".toList

def place (digits : List Char) : List Char := placeWords ++ (digits ++ [')'])

def header (number : List Char) (severity : Severity) (file digits : List Char) : List Char :=
  number ++ ('.' :: ' ' :: (severity.word ++ (file ++ place digits)))

/-- A line `number. ERROR in file (at line n)`. -/
def IsHeader (line : List Char) : Prop :=
  ∃ number severity file digits, IsNumeral number ∧ file ≠ [] ∧ IsNumeral digits ∧
    line = header number severity file digits

/-- A line of ten dashes or more. -/
def separator (more : Nat) : List Char := List.replicate (10 + more) '-'

def IsSeparator (line : List Char) : Prop := ∃ more, line = separator more

def IsOrdinary (line : List Char) : Prop := ¬ IsHeader line ∧ ¬ IsSeparator line

theorem severity?_word (severity : Severity) (rest : List Char) :
    severity? (severity.word ++ rest) = some (severity.kind, rest) := by
  cases severity <;> rfl

theorem severity?_eq_some_iff {s rest : List Char} {kind : Kind} :
    severity? s = some (kind, rest) ↔
      ∃ severity : Severity, kind = severity.kind ∧ s = severity.word ++ rest := by
  constructor
  · intro h
    obtain ⟨⟨word, found⟩, known, hafter⟩ := List.exists_of_findSome?_eq_some h
    obtain ⟨tail, split, hpair⟩ := Option.map_eq_some_iff.mp hafter
    obtain ⟨rfl, rfl⟩ := Prod.mk.inj hpair
    have words : ∃ severity : Severity, word.toList = severity.word ∧ found = severity.kind := by
      simp only [List.mem_cons, List.not_mem_nil, or_false, Prod.mk.injEq] at known
      rcases known with ⟨rfl, rfl⟩ | ⟨rfl, rfl⟩ | ⟨rfl, rfl⟩
      · exact ⟨.error, rfl, rfl⟩
      · exact ⟨.warning, rfl, rfl⟩
      · exact ⟨.info, rfl, rfl⟩
    obtain ⟨severity, hword, hkind⟩ := words
    exact ⟨severity, hkind, hword ▸ Text.eq_append_of_after? split⟩
  · rintro ⟨severity, rfl, rfl⟩
    exact severity?_word severity rest

theorem place?_eq_some_iff {s digits : List Char} :
    place? s = some digits ↔ IsNumeral digits ∧ s = place digits := by
  constructor
  · intro h
    simp only [place?, bind, Option.bind_eq_some_iff] at h
    obtain ⟨rest, hafter, ⟨digits', tail⟩, hnumber, hend⟩ := h
    obtain ⟨hdigits, rfl⟩ := (numbered?_eq_some_iff (by decide)).mp hnumber
    split at hend
    · next ended =>
      obtain rfl := Option.some.inj hend
      obtain rfl := List.isEmpty_iff.mp ended
      exact ⟨hdigits, Text.eq_append_of_after? hafter⟩
    · contradiction
  · rintro ⟨hdigits, rfl⟩
    have start : Text.after? " (at line ".toList (place digits) = some (digits ++ [')']) :=
      Text.after?_append placeWords _
    have number := numbered?_append hdigits (show Text.isDigit ')' = false by decide) [] []
    simp only [List.append_nil] at number
    simp only [place?, bind, Option.bind, start, number]
    rfl

/-- A place has one opening parenthesis, right behind its first character. -/
theorem exists_place_eq {digits : List Char} (h : IsNumeral digits) :
    ∃ rest, place digits = ' ' :: '(' :: rest ∧ '(' ∉ rest := by
  refine ⟨"at line ".toList ++ (digits ++ [')']), rfl, ?_⟩
  have inDigits := h.not_mem (show Text.isDigit '(' = false by decide)
  have inWords : '(' ∉ "at line ".toList := by decide
  simp only [List.mem_append, List.mem_singleton, not_or]
  exact ⟨inWords, inDigits, by decide⟩

/-- No place ends in another one. -/
theorem eq_nil_of_append_place {front digits digits' : List Char} (h : IsNumeral digits)
    (h' : IsNumeral digits') (heq : front ++ place digits = place digits') : front = [] := by
  obtain ⟨rest, hplace, -⟩ := exists_place_eq h
  obtain ⟨rest', hplace', once⟩ := exists_place_eq h'
  rw [hplace, hplace'] at heq
  match front with
  | [] => rfl
  | [c] => simp at heq
  | c :: d :: front =>
    simp only [List.cons_append, List.cons.injEq] at heq
    exact absurd (by simp [← heq.2.2]) once

/-- A file is read up to the place that ends the line, whatever is in it. -/
theorem file?_append {file digits : List Char} (hfile : file ≠ []) (h : IsNumeral digits) :
    file? (file ++ place digits) = some (file, digits) := by
  induction file with
  | nil => contradiction
  | cons c file ih =>
    cases file with
    | nil => simp [file?, place?_eq_some_iff.mpr ⟨h, rfl⟩]
    | cons d file =>
      have unplaced : place? (d :: file ++ place digits) = none := by
        rw [Option.eq_none_iff_forall_ne_some]
        intro digits' found
        obtain ⟨h', heq⟩ := place?_eq_some_iff.mp found
        exact absurd (eq_nil_of_append_place h h' heq) (by simp)
      rw [List.cons_append, file?, unplaced, ih (by simp)]
      rfl

theorem eq_append_of_file? {s file digits : List Char} (h : file? s = some (file, digits)) :
    file ≠ [] ∧ IsNumeral digits ∧ s = file ++ place digits := by
  induction s generalizing file with
  | nil => contradiction
  | cons c rest ih =>
    rw [file?] at h
    split at h
    · next found hplace =>
      obtain ⟨rfl, rfl⟩ := Prod.mk.inj (Option.some.inj h)
      obtain ⟨hdigits, rfl⟩ := place?_eq_some_iff.mp hplace
      exact ⟨by simp, hdigits, rfl⟩
    · obtain ⟨⟨file', digits'⟩, htail, hpair⟩ := Option.map_eq_some_iff.mp h
      obtain ⟨rfl, rfl⟩ := Prod.mk.inj hpair
      obtain ⟨-, hdigits, rfl⟩ := ih htail
      exact ⟨by simp, hdigits, rfl⟩

theorem heading?_header {number file digits : List Char} (hnumber : IsNumeral number)
    (hfile : file ≠ []) (hdigits : IsNumeral digits) (severity : Severity) :
    heading? (header number severity file digits) = some (severity.kind, file, digits) := by
  have start := numbered?_append hnumber (show Text.isDigit '.' = false by decide) [' ']
    (severity.word ++ (file ++ place digits))
  simp only [List.cons_append, List.nil_append] at start
  simp [heading?, header, start, severity?_word, file?_append hfile hdigits]

theorem heading?_eq_some_iff {line file digits : List Char} {kind : Kind} :
    heading? line = some (kind, file, digits) ↔
      ∃ number severity, IsNumeral number ∧ file ≠ [] ∧ IsNumeral digits ∧
        kind = severity.kind ∧ line = header number severity file digits := by
  constructor
  · intro h
    simp only [heading?, bind, Option.bind_eq_some_iff, pure, Option.some.injEq,
      Prod.mk.injEq] at h
    obtain ⟨⟨number, tail⟩, hnumber, ⟨found, after⟩, hseverity, ⟨file', digits'⟩, hfile, rfl, rfl,
      rfl⟩ := h
    obtain ⟨numeral, rfl⟩ := (numbered?_eq_some_iff (by decide)).mp hnumber
    obtain ⟨severity, rfl, rfl⟩ := severity?_eq_some_iff.mp hseverity
    obtain ⟨hne, hdigits, rfl⟩ := eq_append_of_file? hfile
    exact ⟨number, severity, numeral, hne, hdigits, rfl, rfl⟩
  · rintro ⟨number, severity, hnumber, hfile, hdigits, rfl, rfl⟩
    exact heading?_header hnumber hfile hdigits severity

theorem heading?_eq_none_iff {line : List Char} : heading? line = none ↔ ¬ IsHeader line := by
  rw [Option.eq_none_iff_forall_ne_some]
  constructor
  · rintro never ⟨number, severity, file, digits, hnumber, hfile, hdigits, rfl⟩
    exact never _ (heading?_header hnumber hfile hdigits severity)
  · rintro plain ⟨kind, file, digits⟩ found
    obtain ⟨number, severity, hnumber, hfile, hdigits, -, heq⟩ := heading?_eq_some_iff.mp found
    exact plain ⟨number, severity, file, digits, hnumber, hfile, hdigits, heq⟩

instance (line : List Char) : Decidable (IsHeader line) :=
  decidable_of_iff (heading? line ≠ none) (by simp [heading?_eq_none_iff])

theorem isSeparator_iff {line : List Char} : isSeparator line = true ↔ IsSeparator line := by
  constructor
  · intro h
    simp only [isSeparator, Bool.and_eq_true, decide_eq_true_eq, List.all_eq_true] at h
    obtain ⟨long, dashes⟩ := h
    obtain ⟨more, hmore⟩ := Nat.exists_eq_add_of_le long
    exact ⟨more, by rw [separator, ← hmore, ← List.eq_replicate_of_mem dashes]⟩
  · rintro ⟨more, rfl⟩
    simp [isSeparator, separator]

instance (line : List Char) : Decidable (IsSeparator line) := decidable_of_iff _ isSeparator_iff

instance (line : List Char) : Decidable (IsOrdinary line) := inferInstanceAs (Decidable (_ ∧ _))

theorem role_of_header {number file digits : List Char} (hnumber : IsNumeral number)
    (hfile : file ≠ []) (hdigits : IsNumeral digits) (hlength : digits.length ≤ Text.numeralLimit)
    (severity : Severity) :
    role (header number severity file digits) = .ok (.opens {
      kind := severity.kind, source := some (String.ofList file),
      line := some (Text.natOfDigits digits) }) := by
  simp only [role, heading?_header hnumber hfile hdigits, Text.readNumeral_of_le hlength]
  rfl

/-- A line that is no header opens nothing. -/
theorem role_of_not_isHeader {line : List Char} (h : ¬ IsHeader line) :
    role line = .ok (if isSeparator line then .closes else .body) := by
  simp only [role, heading?_eq_none_iff.mpr h]

theorem role_of_ordinary {line : List Char} (h : IsOrdinary line) : role line = .ok .body := by
  have undashed : isSeparator line = false := by
    rw [← Bool.not_eq_true, isSeparator_iff]
    exact h.2
  simp [role_of_not_isHeader h.1, undashed]

/-- A header starts with a digit. -/
theorem IsHeader.exists_cons {line : List Char} (h : IsHeader line) :
    ∃ c rest, line = c :: rest ∧ Text.isDigit c = true := by
  obtain ⟨number, severity, file, digits, hnumber, -, -, rfl⟩ := h
  obtain ⟨c, rest, rfl, hc⟩ := hnumber.exists_cons
  exact ⟨c, _, rfl, hc⟩

theorem not_isHeader_separator (more : Nat) : ¬ IsHeader (separator more) := by
  intro h
  obtain ⟨c, rest, heq, hc⟩ := h.exists_cons
  have dash : c = '-' := List.eq_of_mem_replicate (show c ∈ separator more by simp [heq])
  rw [dash] at hc
  exact absurd hc (by decide)

theorem role_separator (more : Nat) : role (separator more) = .ok .closes := by
  have dashes : isSeparator (separator more) = true := isSeparator_iff.mpr ⟨more, rfl⟩
  simp [role_of_not_isHeader (not_isHeader_separator more), dashes]

theorem isOrdinary_of_isCaretLine {line : List Char} (h : IsCaretLine line) : IsOrdinary line := by
  obtain ⟨indent, more, back, hindent, hback, rfl⟩ := h
  have marks : ∀ c ∈ caretLine indent more back, Text.isBlank c = true ∨ c = '^' := by
    intro c hc
    rw [caretLine, List.mem_append, List.mem_append] at hc
    rcases hc with (hc | hc) | hc
    · exact .inl (hindent c hc)
    · exact .inr (List.eq_of_mem_replicate hc)
    · exact .inl (hback c hc)
  have caret : '^' ∈ caretLine indent more back := by simp [caretLine]
  constructor
  · intro h
    obtain ⟨c, rest, heq, hc⟩ := h.exists_cons
    rcases marks c (by simp [heq]) with blank | rfl
    · rw [Text.isBlank_of_isDigit hc] at blank
      contradiction
    · exact absurd hc (by decide)
  · rintro ⟨dashes, heq⟩
    rw [heq] at caret
    exact absurd (List.eq_of_mem_replicate caret) (by decide)

end PageBuild.Transcript.Ecj
