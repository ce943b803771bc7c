import Mathlib.Algebra.Group.Nat.Defs
import PageBuild.Resolution.Account
import PageBuild.Transcript.Format

/-! Line numbers of transcripts. A transcript is read only if its numerals are within the limit, so
every line that its diagnostics name can be written again. -/
namespace PageBuild

theorem Text.natOfDigits_lt (digits : List Char) : natOfDigits digits < 10 ^ digits.length := by
  have run : ∀ n, digits.foldl (fun n c => 10 * n + (digitValue? c).getD 0) n <
      (n + 1) * 10 ^ digits.length := by
    induction digits with
    | nil => simp
    | cons c digits ih =>
      intro n
      have digit : (digitValue? c).getD 0 < 10 := by
        cases value : digitValue? c with
        | none => decide
        | some worth => exact digitValue?_lt value
      calc digits.foldl (fun n c => 10 * n + (digitValue? c).getD 0)
              (10 * n + (digitValue? c).getD 0)
          < (10 * n + (digitValue? c).getD 0 + 1) * 10 ^ digits.length := ih _
        _ ≤ (10 * (n + 1)) * 10 ^ digits.length := Nat.mul_le_mul_right _ (by omega)
        _ = (n + 1) * 10 ^ (c :: digits).length := by
          rw [List.length_cons, Nat.pow_succ, Nat.mul_comm 10, Nat.mul_assoc, Nat.mul_comm 10]
  simpa [natOfDigits] using run 0

theorem Text.lt_of_readNumeral {digits : List Char} {n : Nat} (h : readNumeral digits = .ok n) :
    n < 10 ^ numeralLimit := by
  unfold readNumeral at h
  split at h
  · next within =>
    obtain rfl := Except.ok.inj h
    exact Nat.lt_of_lt_of_le (natOfDigits_lt digits) (Nat.pow_le_pow_right (by decide) within)
  · cases h

theorem Decimal.length_le_of_lt {n : Nat} (h : n < 10 ^ Text.numeralLimit) :
    length n ≤ Text.numeralLimit :=
  (Nat.length_toDigits_le_iff (by decide) (by decide)).mpr h

namespace Transcript

def Heading.IsReadable (heading : Heading) : Prop :=
  ∀ line ∈ heading.line, line < 10 ^ Text.numeralLimit

def Role.IsReadable : Role → Prop
  | .opens heading => heading.IsReadable
  | .alone d => d.IsReadable
  | .closes | .body => True

structure Reading.IsReadable (r : Reading) : Prop where
  done : ∀ d ∈ r.done, d.IsReadable
  opened : ∀ block ∈ r.opened, block.1.IsReadable

theorem Javac.isReadable_of_role {line : List Char} {found : Role} (h : role line = .ok found) :
    found.IsReadable := by
  unfold role at h
  split at h
  · next l hl =>
    cases hn : Text.readNumeral l.digits with
    | error e => simp [hn, bind, Except.bind] at h
    | ok n =>
      simp only [hn, bind, Except.bind, pure, Except.pure, Except.ok.injEq] at h
      subst h
      intro line named
      obtain rfl := Option.some.inj named
      exact Text.lt_of_readNumeral hn
  · split at h
    · obtain rfl := Except.ok.inj h
      exact fun line named => nomatch named
    · split at h
      · obtain rfl := Except.ok.inj h
        exact fun line named => nomatch named
      · split at h <;>
        · obtain rfl := Except.ok.inj h
          exact trivial

theorem Ecj.isReadable_of_role {line : List Char} {found : Role} (h : role line = .ok found) :
    found.IsReadable := by
  unfold role at h
  split at h
  · next kind file digits hheading =>
    cases hn : Text.readNumeral digits with
    | error e => simp [hn, bind, Except.bind] at h
    | ok n =>
      simp only [hn, bind, Except.bind, pure, Except.pure, Except.ok.injEq] at h
      subst h
      intro line named
      obtain rfl := Option.some.inj named
      exact Text.lt_of_readNumeral hn
  · split at h <;>
    · obtain rfl := Except.ok.inj h
      exact trivial

theorem Heading.IsReadable.diagnostic {heading : Heading} (h : heading.IsReadable)
    (body : List (List Char)) : (heading.diagnostic body).IsReadable := by
  intro line named
  obtain ⟨n, hn, rfl⟩ := Option.map_eq_some_iff.mp named
  exact Decimal.length_le_of_lt (h n hn)

namespace Reading

theorem IsReadable.close {r : Reading} (h : r.IsReadable) : r.close.IsReadable := by
  unfold Reading.close
  split
  · exact h
  · next heading body opened =>
    refine ⟨?_, fun block none => nomatch none⟩
    intro d member
    rcases List.mem_append.mp member with earlier | last
    · exact h.done d earlier
    · obtain rfl := List.mem_singleton.mp last
      exact (h.opened _ opened).diagnostic body

theorem IsReadable.step {r : Reading} {line : List Char} {role : Role} (h : r.IsReadable)
    (hrole : role.IsReadable) : (r.step (line, role)).IsReadable := by
  cases role with
  | opens heading =>
    refine ⟨h.close.done, fun block opened => ?_⟩
    obtain rfl := Option.some.inj opened
    exact hrole
  | alone d =>
    refine ⟨?_, fun block none => nomatch none⟩
    intro other member
    rcases List.mem_append.mp member with earlier | last
    · exact h.close.done other earlier
    · obtain rfl := List.mem_singleton.mp last
      exact hrole
  | closes => exact h.close
  | body =>
    simp only [Reading.step]
    split
    · exact h
    · next heading body opened =>
      refine ⟨h.done, fun block more => ?_⟩
      obtain rfl := Option.some.inj more
      exact h.opened (heading, body) opened

theorem IsReadable.foldl {rows : List (List Char × Role)} {r : Reading} (h : r.IsReadable)
    (hrows : ∀ row ∈ rows, row.2.IsReadable) : (rows.foldl Reading.step r).IsReadable := by
  induction rows generalizing r with
  | nil => exact h
  | cons row rows ih =>
    rw [List.forall_mem_cons] at hrows
    exact ih (h.step hrows.1) hrows.2

end Reading

theorem Format.isReadable_of_role {format : Format} {line : List Char} {found : Role}
    (h : format.role line = .ok found) : found.IsReadable := by
  cases format with
  | javac => exact Javac.isReadable_of_role h
  | ecj => exact Ecj.isReadable_of_role h

/-- A transcript is read only if the role of every line is settled. -/
theorem role_of_mapM {format : Format} {lines : List (List Char)} {rows : List (List Char × Role)}
    (h : (lines.mapM fun line => do return (line, ← format.role line) :
      Except Text.LongNumeral _) = .ok rows) :
    ∀ row ∈ rows, format.role row.1 = .ok row.2 := by
  induction lines generalizing rows with
  | nil =>
    obtain rfl := Except.ok.inj h
    simp
  | cons line lines ih =>
    rw [List.mapM_cons] at h
    cases hrole : format.role line with
    | error e => simp [hrole, bind, Except.bind] at h
    | ok role =>
      cases hrest : (lines.mapM fun line => do return (line, ← format.role line) :
          Except Text.LongNumeral _) with
      | error e =>
        rw [hrest] at h
        simp [hrole, bind, Except.bind, pure, Except.pure] at h
      | ok rest =>
        rw [hrest] at h
        simp only [hrole, bind, Except.bind, pure, Except.pure, Except.ok.injEq] at h
        subst h
        exact List.forall_mem_cons.mpr ⟨hrole, ih hrest⟩

/-- Every diagnostic of a transcript names a line that has a numeral, or none. -/
theorem isReadable_of_parse {format : Format} {s : String} {diagnostics : List Diagnostic}
    (h : parse format s = .ok diagnostics) : ∀ d ∈ diagnostics, d.IsReadable := by
  unfold parse at h
  cases hrows : ((linesOf s.toList).mapM fun line => do return (line, ← format.role line) :
      Except Text.LongNumeral _) with
  | error e =>
    rw [hrows] at h
    cases h
  | ok rows =>
    rw [hrows] at h
    obtain rfl := Except.ok.inj h
    have start : Reading.IsReadable {} := ⟨by simp, by simp⟩
    exact (start.foldl fun row member =>
      Format.isReadable_of_role (role_of_mapM hrows row member)).close.done

end Transcript
end PageBuild
