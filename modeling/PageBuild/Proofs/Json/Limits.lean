import PageBuild.Json.Reader
import PageBuild.Proofs.Session.Run

/-! Documents within the limits of reading. Where no more containers are opened than may be nested,
and no run of digits is longer than a numeral may be, what is no document has a mistake at a
position. -/
namespace PageBuild.Json

variable {α β : Type} {s t : List Char} {c : Cursor} {depth : Nat}

def isOpening (c : Char) : Bool := c = '[' || c = '{'

/-- A text with at most so many openings, and no run of digits that is longer than a numeral. -/
structure IsModest (depth : Nat) (s : List Char) : Prop where
  openings : s.countP isOpening ≤ depth
  digits : ∀ run, run <:+: s → (∀ c ∈ run, isAsciiDigit c = true) →
    run.length ≤ Text.numeralLimit

namespace IsModest

theorem of_suffix (h : IsModest depth s) (suffix : t <:+ s) : IsModest depth t where
  openings := Nat.le_trans (suffix.sublist.countP_le) h.openings
  digits run inside := h.digits run (inside.trans suffix.isInfix)

/-- After an opening, one opening less is left. -/
theorem of_opening {o : Char} (h : IsModest depth (o :: s)) (opening : isOpening o = true) :
    ∃ left, depth = left + 1 ∧ IsModest left s := by
  have count := h.openings
  rw [List.countP_cons_of_pos opening] at count
  obtain ⟨left, rfl⟩ := Nat.exists_eq_add_of_le' (Nat.le_of_add_left_le count)
  exact ⟨left, rfl, Nat.le_of_add_le_add_right count,
    (h.of_suffix (List.suffix_cons o s)).digits⟩

/-- Short texts are modest. -/
theorem of_length (short : s.length ≤ depth) (numeral : s.length ≤ Text.numeralLimit) :
    IsModest depth s where
  openings := Nat.le_trans List.countP_le_length short
  digits _ inside _ := Nat.le_trans inside.length_le numeral

end IsModest

/-- What a reader makes of a text: it goes on with the end of it, or reports a mistake. -/
def ReadsOn (s : List Char) (r : Except Fault (α × Cursor)) : Prop :=
  match r with
  | .ok (_, next) => next.rest <:+ s
  | .error e => ∃ what pos, e = .mistake what pos

namespace ReadsOn

theorem ok {a : α} {next : Cursor} (h : next.rest <:+ s) : ReadsOn s (.ok (a, next)) := h

theorem mistake (what : Mistake) (pos : Nat) :
    ReadsOn s (.error (.mistake what pos) : Except Fault (α × Cursor)) :=
  ⟨what, pos, rfl⟩

theorem mono {r : Except Fault (α × Cursor)} (h : ReadsOn s r) (suffix : s <:+ t) :
    ReadsOn t r := by
  cases r with
  | ok read => exact List.IsSuffix.trans h suffix
  | error e => exact h

theorem bind {r : Except Fault (α × Cursor)} {f : α × Cursor → Except Fault (β × Cursor)}
    (h : ReadsOn s r) (hf : ∀ a next, next.rest <:+ s → ReadsOn s (f (a, next))) :
    ReadsOn s (r >>= f) := by
  cases r with
  | ok read => exact hf read.1 read.2 h
  | error e => exact h

end ReadsOn

theorem skip_suffix (c : Cursor) : c.skip.rest <:+ c.rest := List.dropWhile_suffix isSpace

theorem exists_mistake_of_escape {start pos : Nat} {e : Fault}
    (h : escape start pos s = .error e) : ∃ what pos, e = .mistake what pos := by
  unfold escape at h
  repeat' split at h
  all_goals first
  | exact ⟨_, _, (Except.error.inj h).symm⟩
  | cases h

theorem readsOn_readString (start skip pos : Nat) (read s : List Char) :
    ReadsOn s (readString start skip pos read s) := by
  induction s generalizing skip pos read with
  | nil => cases skip <;> exact .mistake _ _
  | cons c rest ih =>
    have later (skip pos : Nat) (read : List Char) :
        ReadsOn (c :: rest) (readString start skip pos read rest) :=
      (ih skip pos read).mono (List.suffix_cons c rest)
    cases skip with
    | succ skip => exact later _ _ _
    | zero =>
      rw [readString]
      by_cases quote : c = '"'
      · rw [if_pos quote]
        exact .ok (List.suffix_cons c rest)
      · rw [if_neg quote]
        by_cases backslash : c = '\\'
        · rw [if_pos backslash]
          cases escaped : escape start pos rest with
          | error e => exact exists_mistake_of_escape escaped
          | ok escaped => exact later _ _ _
        · rw [if_neg backslash]
          split
          · exact .mistake _ _
          · exact later _ _ _

theorem readsOn_readWord {read : Json × Cursor} (h : readWord? c = some read) :
    ReadsOn c.rest (.ok read) := by
  obtain ⟨⟨word, value⟩, -, found⟩ := List.exists_of_findSome?_eq_some h
  dsimp only at found
  split at found
  · obtain rfl := Option.some.inj found
    exact .ok (List.drop_suffix _ _)
  · cases found

/-- The whole part of a number is a run of digits. -/
theorem wholeDigits_run (s : List Char) :
    wholeDigits s <+: s ∧ ∀ c ∈ wholeDigits s, isAsciiDigit c = true := by
  unfold wholeDigits
  split
  · simp [isAsciiDigit]
  · exact ⟨List.takeWhile_prefix _, List.all_eq_true.mp List.all_takeWhile⟩

theorem readsOn_readNumber (modest : IsModest depth c.rest) : ReadsOn c.rest (readNumber c) := by
  unfold readNumber
  split
  next negative signs rest unsigned =>
  have suffix : rest <:+ c.rest := by
    split at unsigned
    · next more shape =>
      obtain ⟨-, -, rfl⟩ : _ ∧ _ ∧ more = rest := by simpa using unsigned
      exact shape ▸ List.suffix_cons _ _
    · obtain ⟨-, -, same⟩ : _ ∧ _ ∧ c.rest = rest := by simpa using unsigned
      exact same ▸ List.suffix_rfl
  have run := wholeDigits_run rest
  have short := (modest.of_suffix suffix).digits _ run.1.isInfix run.2
  have onward (i j k : Nat) : ((rest.drop i).drop j).drop k <:+ c.rest :=
    (List.drop_suffix _ _).trans ((List.drop_suffix _ _).trans
      ((List.drop_suffix _ _).trans suffix))
  dsimp only
  generalize (if (fractionDigits (rest.drop (wholeDigits rest).length)).isEmpty = true then 0
    else (fractionDigits (rest.drop (wholeDigits rest).length)).length + 1) = point
  rw [Text.readNumeral_of_le short]
  split
  · exact .mistake _ _
  · split
    · exact onward _ _ _
    · exact onward _ _ _

structure ReadersReadOn (fuel : Nat) : Prop where
  value {depth : Nat} {c : Cursor} (modest : IsModest depth c.rest) :
    ReadsOn c.rest (readValue fuel depth c)
  items {depth : Nat} {c : Cursor} (modest : IsModest depth c.rest) (read : List Json) :
    ReadsOn c.rest (readItems fuel depth read c)
  members {depth : Nat} {c : Cursor} (modest : IsModest depth c.rest)
    (read : List (String × Json)) : ReadsOn c.rest (readMembers fuel depth read c)

theorem readersReadOn_zero : ReadersReadOn 0 where
  value _ := .mistake _ _
  items _ _ := .mistake _ _
  members _ _ := .mistake _ _

namespace ReadersReadOn

variable {fuel : Nat}

theorem value_succ (h : ReadersReadOn fuel) (modest : IsModest depth c.rest) :
    ReadsOn c.rest (readValue (fuel + 1) depth c) := by
  -- Behind an opening, the readers of the parts are left one opening less.
  have inside {o : Char} {rest : List Char} (start : c.rest = o :: rest)
      (opening : isOpening o = true) : ∃ left, depth = left + 1 ∧
        Cursor.rest (Cursor.skip ⟨rest, c.pos + 1⟩) <:+ c.rest ∧
        IsModest left (Cursor.rest (Cursor.skip ⟨rest, c.pos + 1⟩)) := by
    have skipped := skip_suffix ⟨rest, c.pos + 1⟩
    obtain ⟨left, rfl, inner⟩ := (start ▸ modest).of_opening opening
    exact ⟨left, rfl, start ▸ skipped.trans (List.suffix_cons o rest), inner.of_suffix skipped⟩
  rw [readValue]
  split
  · exact .mistake _ _
  · next rest start =>
    have quoted : rest <:+ c.rest := start ▸ List.suffix_cons _ _
    exact ((readsOn_readString _ _ _ _ _).mono quoted).bind fun _ _ here => .ok here
  · next rest start =>
    obtain ⟨left, rfl, suffix, inner⟩ := inside start rfl
    dsimp only
    split
    · next after shape => exact .ok ((List.suffix_cons _ _).trans (shape ▸ suffix))
    · exact (h.members inner []).mono suffix
  · next rest start =>
    obtain ⟨left, rfl, suffix, inner⟩ := inside start rfl
    dsimp only
    split
    · next after shape => exact .ok ((List.suffix_cons _ _).trans (shape ▸ suffix))
    · exact (h.items inner []).mono suffix
  · split
    · next read found => exact readsOn_readWord found
    · exact readsOn_readNumber modest

theorem items_succ (h : ReadersReadOn fuel) (modest : IsModest depth c.rest) (read : List Json) :
    ReadsOn c.rest (readItems (fuel + 1) depth read c) := by
  rw [readItems]
  refine (h.value modest).bind fun item next here => ?_
  have skipped := (skip_suffix next).trans here
  dsimp only
  split
  · next after shape =>
    exact .ok ((List.suffix_cons _ _).trans (shape ▸ skipped))
  · next after shape =>
    have inner := (skip_suffix ⟨after, next.skip.pos + 1⟩).trans
      ((List.suffix_cons _ _).trans (shape ▸ skipped))
    exact (h.items (modest.of_suffix inner) _).mono inner
  · exact .mistake _ _

theorem members_succ (h : ReadersReadOn fuel) (modest : IsModest depth c.rest)
    (read : List (String × Json)) : ReadsOn c.rest (readMembers (fuel + 1) depth read c) := by
  rw [readMembers]
  split
  · next rest start =>
    have quoted : rest <:+ c.rest := start ▸ List.suffix_cons _ _
    refine ((readsOn_readString _ _ _ _ _).mono quoted).bind fun name next here => ?_
    have named := (skip_suffix next).trans here
    dsimp only
    split
    · next after colon =>
      have inner := (skip_suffix ⟨after, next.skip.pos + 1⟩).trans
        ((List.suffix_cons _ _).trans (colon ▸ named))
      refine ((h.value (modest.of_suffix inner)).mono inner).bind fun value next here => ?_
      have skipped := (skip_suffix next).trans here
      dsimp only
      split
      · next after shape => exact .ok ((List.suffix_cons _ _).trans (shape ▸ skipped))
      · next after shape =>
        have later := (skip_suffix ⟨after, next.skip.pos + 1⟩).trans
          ((List.suffix_cons _ _).trans (shape ▸ skipped))
        exact (h.members (modest.of_suffix later) _).mono later
      · exact .mistake _ _
    · exact .mistake _ _
  · exact .mistake _ _

end ReadersReadOn

theorem readersReadOn (fuel : Nat) : ReadersReadOn fuel := by
  induction fuel with
  | zero => exact readersReadOn_zero
  | succ fuel ih => exact ⟨ih.value_succ, ih.items_succ, ih.members_succ⟩

/-- What is not read of a modest document has a mistake at a position. -/
theorem exists_mistake_of_read {doc : List Char} (modest : IsModest nestingLimit doc) {e : Fault}
    (h : read doc = .error e) : ∃ what pos, e = .mistake what pos := by
  unfold read at h
  split at h
  · exact ⟨_, _, (Except.error.inj h).symm⟩
  · have skipped := skip_suffix ⟨doc, 0⟩
    have reads := (readersReadOn (2 * doc.length + 2)).value (modest.of_suffix skipped)
    rcases Except.bind_eq_error_iff.mp h with failed | ⟨⟨value, next⟩, -, failed⟩
    · rw [failed] at reads
      exact reads
    · dsimp only at failed
      split at failed
      · cases failed
      · exact ⟨_, _, (Except.error.inj failed).symm⟩

end PageBuild.Json
