import PageBuild.LineMap.Offset

/-! Resolution of lines. A line map resolves a line by the first section that has it, so what it
finds is the template line at the offset of that section, in the file that the section names. -/
namespace PageBuild.LineMap

variable {m : LineMap} {line : Int} {e : LineEntry} {k : Nat}

theorem resolveBy_append {before : List LineEntry} (rest : List LineEntry)
    (missing : ∀ earlier ∈ before, ∀ k, ¬ earlier.HasAt k line) :
    m.resolveBy line (before ++ rest) = m.resolveBy line rest := by
  induction before with
  | nil => rfl
  | cons first before ih =>
    have passed := LineEntry.resolve_eq_none_iff_hasAt.mpr (missing first List.mem_cons_self)
    have others := ih fun earlier member => missing earlier (List.mem_cons_of_mem _ member)
    simp [resolveBy, passed, others]

/-- The first section that has the line decides. -/
theorem resolve_of_firstHasAt {file : String} (first : m.FirstHasAt line e k)
    (declared : m.file? e.fileId = some file) :
    m.resolve line = .ok (some ⟨file, e.inputStart + k⟩) := by
  obtain ⟨before, after, entries, has, missing⟩ := first
  have found := LineEntry.resolve_eq_some_iff.mpr ⟨k, has, rfl⟩
  rw [resolve, entries, resolveBy_append _ missing]
  simp [resolveBy, found, declared]

theorem exists_firstHasAt (member : e ∈ m.entries) (has : e.HasAt k line) :
    ∃ first offset, m.FirstHasAt line first offset := by
  have found : (m.entries.find? fun e => (e.resolve line).isSome).isSome := by
    rw [List.find?_isSome]
    exact ⟨e, member, by simp [LineEntry.resolve_eq_some_iff.mpr ⟨k, has, rfl⟩]⟩
  obtain ⟨first, hfirst⟩ := Option.isSome_iff_exists.mp found
  obtain ⟨resolved, before, after, entries, missing⟩ := List.find?_eq_some_iff_append.mp hfirst
  obtain ⟨n, hn⟩ := Option.isSome_iff_exists.mp resolved
  obtain ⟨offset, hasFirst, -⟩ := LineEntry.resolve_eq_some_iff.mp hn
  refine ⟨first, offset, before, after, entries, hasFirst, fun earlier earlierMember => ?_⟩
  rw [← LineEntry.resolve_eq_none_iff_hasAt]
  simpa using missing earlier earlierMember

theorem FirstHasAt.mem (first : m.FirstHasAt line e k) : e ∈ m.entries := by
  obtain ⟨before, after, entries, -⟩ := first
  simp [entries]

theorem FirstHasAt.hasAt (first : m.FirstHasAt line e k) : e.HasAt k line := by
  obtain ⟨-, -, -, has, -⟩ := first
  exact has

/-- Either no section has the line, or one of them is the first that has it. -/
theorem not_hasAt_or_exists_firstHasAt (m : LineMap) (line : Int) :
    (∀ e ∈ m.entries, ∀ k, ¬ e.HasAt k line) ∨ ∃ e k, m.FirstHasAt line e k := by
  by_cases has : ∃ e ∈ m.entries, ∃ k, e.HasAt k line
  · obtain ⟨e, member, k, has⟩ := has
    exact .inr (exists_firstHasAt member has)
  · exact .inl fun e member k hk => has ⟨e, member, k, hk⟩

theorem resolve_of_not_hasAt (missing : ∀ e ∈ m.entries, ∀ k, ¬ e.HasAt k line) :
    m.resolve line = .ok none := by
  have passed := resolveBy_append (m := m) [] missing
  rw [List.append_nil] at passed
  exact passed

/-- In a consistent map every line is resolved without fail: to nothing exactly if no section has
it, and otherwise to the template line at its offset in the first section that has it. -/
theorem resolve_eq_firstHasAt (consistent : m.IsConsistent) (line : Int) :
    (∀ e ∈ m.entries, ∀ j k, e.HasAt j line → e.HasAt k line → j = k) ∧
    (∃ found?, m.resolve line = .ok found?) ∧
    (m.resolve line = .ok none ↔ ∀ e ∈ m.entries, ∀ k, ¬ e.HasAt k line) ∧
    (∀ found, m.resolve line = .ok (some found) ↔
      ∃ e k, m.FirstHasAt line e k ∧ m.file? e.fileId = some found.file ∧
        found.line = e.inputStart + k) ∧
    (∀ e k, m.FirstHasAt line e k → (m.file? e.fileId).isSome ∧
      e.inputStart ≤ e.inputStart + k ∧ e.inputStart + k < e.inputStart + e.inputCount) := by
  have declared : ∀ {e k}, m.FirstHasAt line e k → ∃ file, m.file? e.fileId = some file :=
    fun first => Option.isSome_iff_exists.mp (consistent _ first.mem)
  refine ⟨fun e _ j k => LineEntry.HasAt.unique, resolveBy_of_isConsistent line consistent, ?_, ?_,
    ?_⟩
  · refine ⟨fun nothing e member k has => ?_, resolve_of_not_hasAt⟩
    obtain ⟨first, offset, hfirst⟩ := exists_firstHasAt member has
    obtain ⟨file, hfile⟩ := declared hfirst
    simp [resolve_of_firstHasAt hfirst hfile] at nothing
  · intro found
    constructor
    · intro hfound
      rcases not_hasAt_or_exists_firstHasAt m line with missing | ⟨e, k, first⟩
      · simp [resolve_of_not_hasAt missing] at hfound
      · obtain ⟨file, hfile⟩ := declared first
        rw [resolve_of_firstHasAt first hfile] at hfound
        obtain rfl := Option.some.inj (Except.ok.inj hfound)
        exact ⟨e, k, first, hfile, rfl⟩
    · rintro ⟨e, k, first, hfile, hline⟩
      rw [resolve_of_firstHasAt first hfile, ← hline]
  · intro e k first
    have inside := first.hasAt.lt_inputCount
    exact ⟨consistent e first.mem, by omega, by omega⟩

/-- A map whose sections overlap: one of a single line lies inside one that has two lines for each
line of its template. -/
def overlapping : LineMap where
  generatedFile := "A.java"
  className := "A"
  files := [(0, "a.jsp"), (1, "b.jsp")]
  entries := [
    { inputStart := 7, outputStart := 4, increment := 0, fileId := 1
      one_le_inputStart := Nat.succ_pos 6, one_le_outputStart := Nat.succ_pos 3
      one_le_inputCount := Nat.succ_pos 0 },
    { inputStart := 2, outputStart := 2, inputCount := 3, increment := 2
      one_le_inputStart := Nat.succ_pos 1, one_le_outputStart := Nat.succ_pos 1
      one_le_inputCount := Nat.succ_pos 2 }]

theorem resolve_eq_firstHasAt_overlapping : overlapping.IsConsistent ∧
    (∃ found?, overlapping.resolve 5 = .ok found?) ∧
    ∃ e k, overlapping.FirstHasAt 5 e k ∧ overlapping.file? e.fileId = some "a.jsp" ∧
      3 = e.inputStart + k := by
  have consistent : overlapping.IsConsistent := by decide
  obtain ⟨-, returns, -, found, -⟩ := resolve_eq_firstHasAt consistent 5
  exact ⟨consistent, returns, (found ⟨"a.jsp", 3⟩).mp rfl⟩

end PageBuild.LineMap
