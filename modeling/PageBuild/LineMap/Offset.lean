import PageBuild.LineMap

/-! Offsets. A section has a generated line at an offset if the line is one of those that the
template line at that offset became. In a line map the first section that has a line decides. -/
namespace PageBuild

namespace LineEntry

/-- The generated line is one of those that the template line at an offset of the section became.
With an increment of zero there is one generated line, which came from the first template line. -/
def HasAt (e : LineEntry) (offset : Nat) (line : Int) : Prop :=
  (1 ≤ e.increment ∧ offset < e.inputCount ∧ e.outputStart + offset * e.increment ≤ line ∧
    line < e.outputStart + (offset + 1) * e.increment) ∨
  (e.increment = 0 ∧ offset = 0 ∧ line = e.outputStart)

instance (e : LineEntry) (offset : Nat) (line : Int) : Decidable (e.HasAt offset line) :=
  inferInstanceAs (Decidable (_ ∨ _))

variable {e : LineEntry} {j k : Nat} {line : Int}

/-- The offset of a line is the quotient of its distance from the start by the increment. -/
theorem hasAt_add_iff (increment : 1 ≤ e.increment) (distance : Nat) :
    e.HasAt k ((e.outputStart + distance : Nat) : Int) ↔
      k < e.inputCount ∧ distance / e.increment = k := by
  have quotient : distance / e.increment = k ↔
      k * e.increment ≤ distance ∧ distance < (k + 1) * e.increment := by
    rw [Nat.div_eq_iff increment, Nat.add_mul]
    omega
  have lower : ((e.outputStart : Int) + k * e.increment ≤ (e.outputStart + distance : Nat)) ↔
      k * e.increment ≤ distance := by
    rw [← Int.ofNat_le]
    push_cast
    omega
  have upper : (((e.outputStart + distance : Nat) : Int) < e.outputStart + (k + 1) * e.increment) ↔
      distance < (k + 1) * e.increment := by
    rw [← Int.ofNat_lt]
    push_cast
    omega
  rw [quotient, HasAt, lower, upper]
  omega

theorem HasAt.outputStart_le (h : e.HasAt k line) : (e.outputStart : Int) ≤ line := by
  rcases h with ⟨-, -, lower, -⟩ | ⟨-, -, rfl⟩
  · have : (0 : Int) ≤ k * e.increment :=
      Int.mul_nonneg (Int.natCast_nonneg _) (Int.natCast_nonneg _)
    omega
  · exact Int.le_refl _

theorem exists_distance (h : (e.outputStart : Int) ≤ line) :
    ∃ distance : Nat, line = ((e.outputStart + distance : Nat) : Int) :=
  ⟨(line - e.outputStart).toNat, by omega⟩

theorem HasAt.unique (hj : e.HasAt j line) (hk : e.HasAt k line) : j = k := by
  obtain ⟨distance, rfl⟩ := exists_distance hj.outputStart_le
  rcases Nat.eq_zero_or_pos e.increment with none | some
  · simp only [HasAt, none] at hj hk
    omega
  · rw [hasAt_add_iff some] at hj hk
    exact hj.2.symm.trans hk.2

theorem HasAt.lt_inputCount (h : e.HasAt k line) : k < e.inputCount := by
  rcases h with ⟨-, inside, -⟩ | ⟨-, rfl, -⟩
  · exact inside
  · exact e.one_le_inputCount

/-- A section whose increment is positive divides the distance of a line from its start. -/
theorem resolve_add (increment : 1 ≤ e.increment) (distance : Nat) :
    e.resolve ((e.outputStart + distance : Nat) : Int) =
      if distance / e.increment < e.inputCount then some (e.inputStart + distance / e.increment)
      else none := by
  have back : ((e.outputStart + distance : Nat) : Int).toNat - e.outputStart = distance := by omega
  have inside : ((e.outputStart : Int) ≤ (e.outputStart + distance : Nat) ∧
      ((e.outputStart + distance : Nat) : Int) <
        (e.outputStart + e.inputCount * e.increment : Nat)) ↔
      distance / e.increment < e.inputCount := by
    rw [Nat.div_lt_iff_lt_mul increment]
    omega
  simp only [resolve, outputEnd, if_neg (Nat.ne_of_gt increment), back, inside]

/-- A section sends a line to the template line at the offset of the line. -/
theorem resolve_eq_some_iff {n : Nat} :
    e.resolve line = some n ↔ ∃ k, e.HasAt k line ∧ n = e.inputStart + k := by
  by_cases before : line < e.outputStart
  · refine iff_of_false (by simp [resolve, Int.not_le.mpr before]) ?_
    rintro ⟨k, has, -⟩
    exact Int.not_le.mpr before has.outputStart_le
  · obtain ⟨distance, rfl⟩ := exists_distance (Int.not_lt.mp before)
    rcases Nat.eq_zero_or_pos e.increment with none | some
    · have first : ((e.outputStart + distance : Nat) : Int) = e.outputStart ↔
          ((e.outputStart + distance : Nat) : Int) < (e.outputStart + 1 : Nat) := by omega
      have start : (e.outputStart : Int) ≤ (e.outputStart + distance : Nat) := by omega
      simp only [resolve, outputEnd, HasAt, none, first, start]
      simp [eq_comm, and_comm]
    · simp only [resolve_add some, hasAt_add_iff some]
      constructor
      · intro found
        split at found
        · next inside => exact ⟨_, ⟨inside, rfl⟩, (Option.some.inj found).symm⟩
        · contradiction
      · rintro ⟨k, ⟨inside, rfl⟩, rfl⟩
        exact if_pos inside

theorem resolve_eq_none_iff_hasAt : e.resolve line = none ↔ ∀ k, ¬ e.HasAt k line := by
  rw [Option.eq_none_iff_forall_ne_some]
  constructor
  · intro never k has
    exact never _ (resolve_eq_some_iff.mpr ⟨k, has, rfl⟩)
  · intro never n found
    obtain ⟨k, has, -⟩ := resolve_eq_some_iff.mp found
    exact never k has

end LineEntry

namespace LineMap

/-- The section is the first one that has the line, and has it at the offset. -/
def FirstHasAt (m : LineMap) (line : Int) (e : LineEntry) (offset : Nat) : Prop :=
  ∃ before after, m.entries = before ++ e :: after ∧ e.HasAt offset line ∧
    ∀ earlier ∈ before, ∀ k, ¬ earlier.HasAt k line

end LineMap
end PageBuild
