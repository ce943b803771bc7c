import PageBuild.Proofs.FileTree.Changes

/-! Files and programs at the ends of paths. What the questions of a tree answer is said by these
two; and whatever stood at the end of a path stands there in a larger tree. -/
namespace PageBuild.FileTree

variable {t t' : FileTree} {path : String}

def IsFileAt (t : FileTree) (path : String) : Prop :=
  ∃ content executable, t.stat path = .ok (.file content executable)

def IsProgramAt (t : FileTree) (path : String) : Prop :=
  ∃ content, t.stat path = .ok (.file content true)

theorem IsProgramAt.isFileAt (program : t.IsProgramAt path) : t.IsFileAt path := by
  obtain ⟨content, there⟩ := program
  exact ⟨content, true, there⟩

theorem isProgram_iff : t.isProgram path = true ↔ t.IsProgramAt path := by
  unfold isProgram IsProgramAt
  rcases t.stat path with e | ⟨content, executable⟩ | _ <;> simp [Entry.isExecutable]

theorem stat_eq_ok_iff {entry : Entry} :
    t.stat path = .ok entry ↔
      ∃ place, t.resolve path = .ok place ∧ t.entry? place = some entry := by
  unfold stat
  cases t.resolve path with
  | error e => simp
  | ok place => cases there : t.entry? place <;> simp [there]

theorem Extends.stat {entry : Entry} (keeps : t.Extends t') (there : t.stat path = .ok entry) :
    t'.stat path = .ok entry := by
  obtain ⟨place, led, there⟩ := stat_eq_ok_iff.mp there
  exact stat_eq_ok_iff.mpr ⟨place, keeps.resolve led, keeps.kept place entry there⟩

theorem Extends.isFileAt (keeps : t.Extends t') (there : t.IsFileAt path) : t'.IsFileAt path := by
  obtain ⟨content, executable, there⟩ := there
  exact ⟨content, executable, keeps.stat there⟩

/-- A file that stands in a tree is a program in every larger one or in none. -/
theorem Extends.isProgramAt_iff (keeps : t.Extends t') (there : t.IsFileAt path) :
    t'.IsProgramAt path ↔ t.IsProgramAt path := by
  obtain ⟨content, executable, there⟩ := there
  simp [IsProgramAt, there, keeps.stat there]

/-- The question whether a file is there is answered truly, or refused. -/
theorem isFile?_cases (t : FileTree) (path : String) :
    t.isFile? path = .ok true ∧ t.IsFileAt path ∨
      t.isFile? path = .ok false ∧ ¬ t.IsFileAt path ∨ ∃ e, t.isFile? path = .error e := by
  unfold isFile? ask IsFileAt
  cases there : t.stat path with
  | ok entry => cases entry <;> simp [Entry.isFile]
  | error fault =>
    cases fault with
    | text e => simp
    | os e =>
      dsimp only
      split <;> simp

end PageBuild.FileTree
