import PageBuild.Transcript.Javac
import PageBuild.Transcript.Pattern

/-! The lines of `javac` by what they look like. A header is a file, a mark and a message; the mark
is the colon, the line number and the word for the kind. Four patterns are tried in turn, and a
line that fits none of them is ordinary. -/
namespace PageBuild.Transcript.Javac

inductive Severity
  | error
  | warning
  deriving DecidableEq, Repr

def Severity.kind : Severity → Kind
  | .error => .error
  | .warning => .warning

def Severity.word : Severity → List Char
  | .error => "error: ".toList
  | .warning => "warning: ".toList

/-- What stands between the file of a header and its message. -/
def mark (digits : List Char) (severity : Severity) : List Char :=
  ':' :: (digits ++ (':' :: ' ' :: severity.word))

def HasMark (s : List Char) : Prop :=
  ∃ digits severity, IsNumeral digits ∧ mark digits severity <:+: s

/-- A line `file:line: error: message`. -/
def IsHeader (line : List Char) : Prop :=
  ∃ file digits severity message, file ≠ [] ∧ IsNumeral digits ∧
    line = file ++ (mark digits severity ++ message)

/-- A line `error: message`. -/
def IsFileless (line : List Char) : Prop :=
  ∃ (severity : Severity) (message : List Char), line = severity.word ++ message

/-- A line `Note: message`. -/
def IsNote (line : List Char) : Prop := ∃ message, line = "Note: ".toList ++ message

def countWords : List String := ["error", "errors", "warning", "warnings"]

/-- A line `2 errors`, perhaps with blanks around it. -/
def IsCount (line : List Char) : Prop :=
  ∃ digits, ∃ word ∈ countWords, IsNumeral digits ∧
    Text.trim Text.isBlank line = digits ++ ' ' :: word.toList

def IsOrdinary (line : List Char) : Prop :=
  ¬ IsHeader line ∧ ¬ IsFileless line ∧ ¬ IsNote line ∧ ¬ IsCount line

theorem severity?_word (severity : Severity) (message : List Char) :
    severity? (severity.word ++ message) = some (severity.kind, message) := by
  cases severity <;> rfl

theorem severity?_eq_some_iff {s message : List Char} {kind : Kind} :
    severity? s = some (kind, message) ↔
      ∃ severity : Severity, kind = severity.kind ∧ s = severity.word ++ message := by
  constructor
  · intro h
    simp only [severity?] at h
    split at h
    · next found =>
      obtain ⟨rfl, rfl⟩ := Prod.mk.inj (Option.some.inj h)
      exact ⟨.error, rfl, Text.eq_append_of_after? found⟩
    · obtain ⟨rest, found, hpair⟩ := Option.map_eq_some_iff.mp h
      obtain ⟨rfl, rfl⟩ := Prod.mk.inj hpair
      exact ⟨.warning, rfl, Text.eq_append_of_after? found⟩
  · rintro ⟨severity, rfl, rfl⟩
    exact severity?_word severity message

theorem location?_mark {digits : List Char} (h : IsNumeral digits) (severity : Severity)
    (message : List Char) :
    location? (mark digits severity ++ message) = some (digits, severity.kind, message) := by
  have number := numbered?_append h (show Text.isDigit ':' = false by decide) [' ']
    (severity.word ++ message)
  simp only [List.cons_append, List.nil_append] at number
  simp [mark, location?, number, severity?_word]

theorem location?_eq_some_iff {s digits message : List Char} {kind : Kind} :
    location? s = some (digits, kind, message) ↔
      ∃ severity : Severity, kind = severity.kind ∧ IsNumeral digits ∧
        s = mark digits severity ++ message := by
  constructor
  · intro h
    unfold location? at h
    split at h
    · next rest =>
      simp only [bind, Option.bind_eq_some_iff, pure, Option.some.injEq, Prod.mk.injEq] at h
      obtain ⟨⟨digits', tail⟩, hnumber, ⟨kind', message'⟩, hseverity, rfl, rfl, rfl⟩ := h
      obtain ⟨hdigits, rfl⟩ := (numbered?_eq_some_iff (by decide)).mp hnumber
      obtain ⟨severity, hkind, rfl⟩ := severity?_eq_some_iff.mp hseverity
      exact ⟨severity, hkind, hdigits, by simp [mark]⟩
    · simp at h
  · rintro ⟨severity, rfl, hdigits, rfl⟩
    exact location?_mark hdigits severity message

/-- In the words between the line number and the message, a space follows every colon. -/
theorem Severity.space_of_colon {severity : Severity} {front back : List Char}
    (heq : ':' :: ' ' :: severity.word = front ++ ':' :: back) : ∃ rest, back = ' ' :: rest := by
  have spaced : ∀ n < 11, (':' :: ' ' :: severity.word)[n]? = some ':' →
      (':' :: ' ' :: severity.word)[n + 1]? = some ' ' := by
    cases severity <;> decide
  have short : front.length < 11 := by
    have : (':' :: ' ' :: severity.word).length ≤ 11 := by cases severity <;> decide
    rw [heq, List.length_append, List.length_cons] at this
    omega
  have next := spaced front.length short
  rw [heq] at next
  cases back with
  | nil => simp at next
  | cons c rest => exact ⟨rest, by simpa using next⟩

theorem space_of_colon {digits front back : List Char} {severity : Severity} (h : IsNumeral digits)
    (hfront : front ≠ []) (heq : mark digits severity = front ++ ':' :: back) :
    ∃ rest, back = ' ' :: rest := by
  cases front with
  | nil => contradiction
  | cons c front =>
    have tail := (List.cons.inj heq).2
    rcases List.append_eq_append_iff.mp tail with ⟨later, rfl, hlater⟩ | ⟨earlier, hdigits, hback⟩
    · exact Severity.space_of_colon hlater
    · cases earlier with
      | nil => exact ⟨severity.word, (List.cons.inj hback).2⟩
      | cons d earlier =>
        obtain rfl : ':' = d := (List.cons.inj hback).1
        exact absurd (h.2 ':' (by simp [hdigits])) (by decide)

/-- A mark that starts inside a file ends inside it, too: it cannot use the characters of the mark
behind the file. -/
theorem mark_infix_of_overlap {file digits digits' message message' : List Char}
    {severity severity' : Severity} (h : IsNumeral digits) (h' : IsNumeral digits')
    (hfile : file ≠ [])
    (heq : file ++ (mark digits severity ++ message) = mark digits' severity' ++ message') :
    mark digits' severity' <+: file := by
  rcases List.append_eq_append_iff.mp heq with ⟨rest, hmark, hrest⟩ | ⟨rest, hfile', -⟩
  · obtain ⟨c, more, rfl, hc⟩ := h.exists_cons
    cases rest with
    | nil => simp [hmark]
    | cons d rest =>
      obtain ⟨rfl, tail⟩ := List.cons.inj hrest
      obtain ⟨rest, rfl⟩ := space_of_colon h' hfile hmark
      obtain ⟨rfl, -⟩ := List.cons.inj tail
      exact absurd hc (by decide)
  · exact ⟨rest, hfile'.symm⟩

/-- A file without a mark is read up to the mark behind it. -/
theorem located?_append {file digits : List Char} (hfile : file ≠ []) (hdigits : IsNumeral digits)
    (plain : ¬ HasMark file)
    (severity : Severity) (message : List Char) :
    located? (file ++ (mark digits severity ++ message)) =
      some ⟨file, digits, severity.kind, message⟩ := by
  induction file with
  | nil => contradiction
  | cons c file ih =>
    cases file with
    | nil => simp only [List.cons_append, List.nil_append, located?, location?_mark hdigits]
    | cons d file =>
      have unmarked : location? (d :: file ++ (mark digits severity ++ message)) = none := by
        rw [Option.eq_none_iff_forall_ne_some]
        rintro ⟨digits', kind', message'⟩ found
        obtain ⟨severity', -, hdigits', heq⟩ := location?_eq_some_iff.mp found
        have inside := mark_infix_of_overlap hdigits hdigits' (by simp) heq
        exact plain ⟨digits', severity', hdigits',
          inside.isInfix.trans (List.infix_cons List.infix_rfl)⟩
      have tail := ih (by simp) fun ⟨digits, severity, hdigits, inside⟩ =>
        plain ⟨digits, severity, hdigits, inside.trans (List.infix_cons List.infix_rfl)⟩
      rw [List.cons_append, located?, unmarked, tail]
      rfl

theorem isHeader_cons {c : Char} {rest : List Char} :
    IsHeader (c :: rest) ↔ (∃ found, location? rest = some found) ∨ IsHeader rest := by
  constructor
  · rintro ⟨file, digits, severity, message, hfile, hdigits, heq⟩
    cases file with
    | nil => contradiction
    | cons d file =>
      obtain ⟨-, rfl⟩ := List.cons.inj heq
      cases file with
      | nil => exact .inl ⟨_, location?_mark hdigits severity message⟩
      | cons e file => exact .inr ⟨e :: file, digits, severity, message, by simp, hdigits, rfl⟩
  · rintro (⟨⟨digits, kind, message⟩, found⟩ | ⟨file, digits, severity, message, -, hdigits, rfl⟩)
    · obtain ⟨severity, -, hdigits, rfl⟩ := location?_eq_some_iff.mp found
      exact ⟨[c], digits, severity, message, by simp, hdigits, rfl⟩
    · exact ⟨c :: file, digits, severity, message, by simp, hdigits, rfl⟩

theorem located?_eq_none_iff {line : List Char} : located? line = none ↔ ¬ IsHeader line := by
  induction line with
  | nil =>
    refine iff_of_true rfl ?_
    rintro ⟨file, digits, severity, message, hfile, -, heq⟩
    exact hfile (List.append_eq_nil_iff.mp heq.symm).1
  | cons c rest ih =>
    rw [isHeader_cons, located?]
    cases found : location? rest with
    | some place => simp
    | none => simp [ih]

instance (line : List Char) : Decidable (IsHeader line) :=
  decidable_of_iff (located? line ≠ none) (by simp [located?_eq_none_iff])

theorem isHeader_cons_iff_hasMark {c : Char} {s : List Char} :
    IsHeader (c :: s) ↔ HasMark s := by
  constructor
  · rintro ⟨file, digits, severity, message, hfile, hdigits, heq⟩
    cases file with
    | nil => contradiction
    | cons d file =>
      obtain ⟨-, rfl⟩ := List.cons.inj heq
      exact ⟨digits, severity, hdigits, file, message, List.append_assoc ..⟩
  · rintro ⟨digits, severity, hdigits, file, message, rfl⟩
    exact ⟨c :: file, digits, severity, message, by simp, hdigits, by simp⟩

instance (s : List Char) : Decidable (HasMark s) :=
  decidable_of_iff (IsHeader (' ' :: s)) isHeader_cons_iff_hasMark

theorem severity?_eq_none_iff {line : List Char} : severity? line = none ↔ ¬ IsFileless line := by
  rw [Option.eq_none_iff_forall_ne_some]
  constructor
  · rintro h ⟨severity, message, rfl⟩
    exact h _ (severity?_word severity message)
  · rintro h ⟨kind, message⟩ found
    obtain ⟨severity, -, rfl⟩ := severity?_eq_some_iff.mp found
    exact h ⟨severity, message, rfl⟩

instance (line : List Char) : Decidable (IsFileless line) :=
  decidable_of_iff (severity? line ≠ none) (by simp [severity?_eq_none_iff])

theorem note_eq_none_iff {line : List Char} :
    Text.after? "Note: ".toList line = none ↔ ¬ IsNote line := by
  simp only [Option.eq_none_iff_forall_ne_some, ne_eq, Text.after?_eq_some_iff, IsNote, not_exists]

instance (line : List Char) : Decidable (IsNote line) :=
  decidable_of_iff (Text.after? "Note: ".toList line ≠ none)
    (by rw [ne_eq, note_eq_none_iff, Classical.not_not])

theorem isCount_iff {line : List Char} : isCount line = true ↔ IsCount line := by
  constructor
  · intro h
    unfold isCount at h
    split at h
    · next digits tail found =>
      obtain ⟨hdigits, heq⟩ := (numbered?_eq_some_iff (by decide)).mp found
      obtain ⟨word, hword, htail⟩ := List.any_eq_true.mp h
      rw [decide_eq_true_eq] at htail
      exact ⟨digits, word, hword, hdigits, by rw [heq, htail]; rfl⟩
    · simp at h
  · rintro ⟨digits, word, hword, hdigits, heq⟩
    have number := numbered?_append hdigits (show Text.isDigit ' ' = false by decide) []
      word.toList
    simp only [List.cons_append, List.nil_append] at number
    simp only [isCount, heq, number]
    exact List.any_eq_true.mpr ⟨word, hword, by simp⟩

instance (line : List Char) : Decidable (IsCount line) := decidable_of_iff _ isCount_iff

instance (line : List Char) : Decidable (IsOrdinary line) := inferInstanceAs (Decidable (_ ∧ _))

theorem role_of_ordinary {line : List Char} (h : IsOrdinary line) : role line = .ok .body := by
  obtain ⟨hheader, hfileless, hnote, hcount⟩ := h
  have uncounted : isCount line = false := by
    rw [← Bool.not_eq_true, isCount_iff]
    exact hcount
  simp only [role, located?_eq_none_iff.mpr hheader, severity?_eq_none_iff.mpr hfileless,
    note_eq_none_iff.mpr hnote, uncounted]
  rfl

theorem role_of_located {line : List Char} {l : Located} (h : located? line = some l)
    (hlength : l.digits.length ≤ Text.numeralLimit) :
    role line = .ok (.opens {
      kind := l.kind, source := some (String.ofList l.file),
      line := some (Text.natOfDigits l.digits), lead := [l.message] }) := by
  simp only [role, h, Text.readNumeral_of_le hlength]
  rfl

theorem role_of_fileless {severity : Severity} {message : List Char}
    (h : ¬ IsHeader (severity.word ++ message)) :
    role (severity.word ++ message) =
      .ok (.opens { kind := severity.kind, lead := [message] }) := by
  simp [role, located?_eq_none_iff.mpr h, severity?_word]

theorem not_isFileless_note (message : List Char) : ¬ IsFileless ("Note: ".toList ++ message) := by
  rw [← severity?_eq_none_iff]
  rfl

theorem role_of_note {message : List Char} (h : ¬ IsHeader ("Note: ".toList ++ message)) :
    role ("Note: ".toList ++ message) =
      .ok (.alone { kind := .note, message := String.ofList message }) := by
  simp only [role, located?_eq_none_iff.mpr h,
    severity?_eq_none_iff.mpr (not_isFileless_note message), Text.after?_append]

theorem IsCount.not_mem_colon {line : List Char} (h : IsCount line) : ':' ∉ line := by
  obtain ⟨digits, word, hword, hdigits, hline⟩ := h
  obtain ⟨front, back, hfront, hback, split⟩ :=
    Text.exists_eq_append_trim_append Text.isBlank line
  have blank : Text.isBlank ':' = false := by decide
  have digit : Text.isDigit ':' = false := by decide
  have wordless : ∀ word ∈ countWords, ':' ∉ word.toList := by decide
  intro hcolon
  rw [split, hline, List.mem_append, List.mem_append, List.mem_append, List.mem_cons] at hcolon
  rcases hcolon with (hcolon | hcolon | hcolon | hcolon) | hcolon
  · exact absurd (hfront _ hcolon) (by simp [blank])
  · exact absurd (hdigits.2 _ hcolon) (by simp [digit])
  · exact absurd hcolon (by decide)
  · exact wordless word hword hcolon
  · exact absurd (hback _ hcolon) (by simp [blank])

theorem not_matched_of_not_mem_colon {line : List Char} (h : ':' ∉ line) :
    ¬ IsHeader line ∧ ¬ IsFileless line ∧ ¬ IsNote line := by
  refine ⟨?_, ?_, ?_⟩
  · rintro ⟨file, digits, severity, message, -, -, rfl⟩
    exact h (by simp [mark])
  · rintro ⟨severity, message, rfl⟩
    have : ':' ∈ severity.word := by cases severity <;> decide
    exact h (List.mem_append_left _ this)
  · rintro ⟨message, rfl⟩
    exact h (List.mem_append_left _ (by decide))

theorem role_of_count {line : List Char} (h : IsCount line) : role line = .ok .closes := by
  obtain ⟨hheader, hfileless, hnote⟩ := not_matched_of_not_mem_colon h.not_mem_colon
  simp only [role, located?_eq_none_iff.mpr hheader, severity?_eq_none_iff.mpr hfileless,
    note_eq_none_iff.mpr hnote, isCount_iff.mpr h]
  rfl

theorem isOrdinary_of_isCaretLine {line : List Char} (h : IsCaretLine line) : IsOrdinary line := by
  obtain ⟨indent, more, back, hindent, hback, rfl⟩ := h
  have blank : Text.isBlank ':' = false := by decide
  have hcolon : ':' ∉ caretLine indent more back := by
    rw [caretLine, List.mem_append, List.mem_append]
    rintro ((hcolon | hcolon) | hcolon)
    · exact absurd (hindent _ hcolon) (by simp [blank])
    · exact absurd (List.eq_of_mem_replicate hcolon) (by decide)
    · exact absurd (hback _ hcolon) (by simp [blank])
  obtain ⟨hheader, hfileless, hnote⟩ := not_matched_of_not_mem_colon hcolon
  refine ⟨hheader, hfileless, hnote, ?_⟩
  rintro ⟨digits, word, -, hdigits, heq⟩
  obtain ⟨c, rest, rfl, hc⟩ := hdigits.exists_cons
  rw [trim_caretLine more hindent hback, List.replicate_succ] at heq
  rw [← (List.cons.inj heq).1] at hc
  exact absurd hc (by decide)

end PageBuild.Transcript.Javac
