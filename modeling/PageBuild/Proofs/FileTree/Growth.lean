import Mathlib.Data.List.Induction
import PageBuild.Proofs.FileTree.Names
import PageBuild.Proofs.FileTree.Places

/-! How a tree grows and shrinks. Everything in a grounded tree stands in a directory, and it goes on
to do so. What is done at a place where nothing stands leaves everything else as it is, so paths
that led somewhere still lead there. -/
namespace PageBuild.FileTree

variable {t t' : FileTree} {start place other : Place} {names : List String} {path : String}

/-- Everything stands in a directory. -/
def IsGrounded (t : FileTree) : Prop :=
  ∀ member ∈ t.entries, t.isDirectoryAt member.1.dropLast = true

instance (t : FileTree) : Decidable t.IsGrounded := List.decidableBAll _ _

structure Extends (t t' : FileTree) : Prop where
  current : t'.current = t.current
  kept : ∀ place entry, t.entry? place = some entry → t'.entry? place = some entry

theorem isDirectoryAt_iff : t.isDirectoryAt place = true ↔ t.entry? place = some .directory :=
  decide_eq_true_iff

theorem mem_of_entry? {entry : Entry} (h : t.entry? place = some entry) :
    place = [] ∨ (place, entry) ∈ t.entries := by
  by_cases root : place = []
  · exact .inl root
  · unfold entry? at h
    rw [if_neg root] at h
    obtain ⟨⟨found, _⟩, first, rfl⟩ := Option.map_eq_some_iff.mp h
    have same : found = place := by simpa using List.find?_some first
    exact .inr (same ▸ List.mem_of_find?_eq_some first)

namespace IsGrounded

theorem isDirectoryAt_dropLast {entry : Entry} (grounded : t.IsGrounded)
    (h : t.entry? place = some entry) : t.isDirectoryAt place.dropLast = true := by
  rcases mem_of_entry? h with rfl | member
  · rfl
  · exact grounded _ member

/-- Nothing stands below a place where nothing stands. -/
theorem entry?_append (grounded : t.IsGrounded) (bare : t.entry? place = none)
    (rest : List String) : t.entry? (place ++ rest) = none := by
  induction rest using List.reverseRecOn with
  | nil => rwa [List.append_nil]
  | append_singleton rest name ih =>
    cases there : t.entry? (place ++ (rest ++ [name])) with
    | none => rfl
    | some entry =>
      have parent := grounded.isDirectoryAt_dropLast there
      rw [← List.append_assoc, List.dropLast_concat, isDirectoryAt_iff, ih] at parent
      contradiction

/-- Two dots at the end lead to a directory. -/
theorem isDirectoryAt_of_walk_dots (grounded : t.IsGrounded)
    (h : t.walk start (names ++ [".."]) = .ok place) : t.isDirectoryAt place = true := by
  induction names generalizing start with
  | nil =>
    obtain ⟨isDirectory, -, ⟨dot, -⟩ | ⟨-, up⟩ | ⟨-, noDots, -⟩⟩ := walk_cons_eq_ok_iff.mp h
    · simp at dot
    · obtain rfl := Except.ok.inj up
      exact grounded.isDirectoryAt_dropLast (isDirectoryAt_iff.mp isDirectory)
    · simp at noDots
  | cons name rest ih =>
    obtain ⟨-, -, ⟨-, down⟩ | ⟨-, down⟩ | ⟨-, -, ⟨last, -⟩ | ⟨-, -, down⟩⟩⟩ :=
      walk_cons_eq_ok_iff.mp h
    · exact ih down
    · exact ih down
    · simp at last
    · exact ih down

end IsGrounded

/-- A place is in a directory if it was reached by a path whose last name is its own. -/
theorem walk_concat {name : String} (led : t.walk start names = .ok place)
    (isDirectory : t.isDirectoryAt place = true) (short : Text.byteSize name ≤ nameLimit)
    (noDot : name ≠ ".") (noDots : name ≠ "..") :
    t.walk start (names ++ [name]) = .ok (place ++ [name]) := by
  induction names generalizing start with
  | nil =>
    obtain rfl := Except.ok.inj led
    exact walk_cons_eq_ok_iff.mpr ⟨isDirectory, short, .inr (.inr ⟨noDot, noDots, .inl ⟨rfl, rfl⟩⟩)⟩
  | cons first rest ih =>
    obtain ⟨started, fits, way⟩ := walk_cons_eq_ok_iff.mp led
    refine walk_cons_eq_ok_iff.mpr ⟨started, fits, ?_⟩
    rcases way with ⟨dot, down⟩ | ⟨dots, down⟩ | ⟨plain, plain', last | ⟨-, there, down⟩⟩
    · exact .inl ⟨dot, ih down⟩
    · exact .inr (.inl ⟨dots, ih down⟩)
    · obtain ⟨rfl, rfl⟩ := last
      refine .inr (.inr ⟨plain, plain', .inr ⟨by simp, ?_, ih rfl⟩⟩)
      rw [isDirectoryAt_iff.mp isDirectory]
      rfl
    · exact .inr (.inr ⟨plain, plain', .inr ⟨by simp, there, ih down⟩⟩)

namespace Extends

theorem refl (t : FileTree) : Extends t t := ⟨rfl, fun _ _ h => h⟩

theorem trans {t'' : FileTree} (first : Extends t t') (second : Extends t' t'') : Extends t t'' :=
  ⟨second.current.trans first.current,
    fun place entry there => second.kept place entry (first.kept place entry there)⟩

theorem isDirectoryAt (h : Extends t t') (isDirectory : t.isDirectoryAt place = true) :
    t'.isDirectoryAt place = true :=
  isDirectoryAt_iff.mpr (h.kept _ _ (isDirectoryAt_iff.mp isDirectory))

theorem walk (h : Extends t t') (led : t.walk start names = .ok place) :
    t'.walk start names = .ok place := by
  induction names generalizing start with
  | nil => exact led
  | cons name rest ih =>
    obtain ⟨started, short, way⟩ := walk_cons_eq_ok_iff.mp led
    refine walk_cons_eq_ok_iff.mpr ⟨h.isDirectoryAt started, short, ?_⟩
    rcases way with ⟨dot, down⟩ | ⟨dots, down⟩ | ⟨noDot, noDots, last | ⟨more, there, down⟩⟩
    · exact .inl ⟨dot, ih down⟩
    · exact .inr (.inl ⟨dots, ih down⟩)
    · exact .inr (.inr ⟨noDot, noDots, .inl last⟩)
    · obtain ⟨entry, there⟩ := Option.isSome_iff_exists.mp there
      refine .inr (.inr ⟨noDot, noDots, .inr ⟨more, ?_, ih down⟩⟩)
      rw [h.kept _ _ there]
      rfl

theorem resolve (h : Extends t t') (led : t.resolve path = .ok place) :
    t'.resolve path = .ok place := by
  have walked := h.walk (walk_of_resolve led)
  refine resolve_of_walk (fits_of_resolve led) ?_
  rwa [origin, h.current]

theorem put (h : Extends t t') (entry : Entry) (bare : t.entry? place = none) :
    Extends t (t'.put place entry) := by
  refine ⟨h.current, fun other found there => ?_⟩
  have apart : other ≠ place := by
    rintro rfl
    rw [bare] at there
    cases there
  rw [entry?_put_other entry apart]
  exact h.kept other found there

end Extends

theorem exists?_eq (led : t.resolve path = .ok place) :
    t.exists? path = .ok (t.entry? place).isSome := by
  unfold exists? ask stat
  rw [led]
  cases there : t.entry? place <;> simp [there]

theorem write_eq (content : List UInt8) (led : t.resolve path = .ok place)
    (bare : t.entry? place ≠ some .directory) (parent : t.isDirectoryAt place.dropLast = true) :
    ∃ executable, write path content t = .ok () (t.put place (.file content executable)) := by
  simp only [write, bind, EStateM.bind, get_eq, led]
  cases there : t.entry? place with
  | none => exact ⟨false, by simp [parent, set_eq]⟩
  | some entry =>
    cases entry with
    | directory => exact absurd there bare
    | file old executable => exact ⟨executable, rfl⟩

def clear (t : FileTree) (place : Place) : FileTree := (t.eraseBelow place).erase place

theorem entry?_clear_below (below : place <+: other) (named : place ≠ []) :
    FileTree.entry? (t.clear place) other = none := by
  have ne : other ≠ [] := by
    rintro rfl
    exact named (List.prefix_nil.mp below)
  unfold entry?
  rw [if_neg ne]
  by_cases same : other = place
  · subst same
    exact find?_filter_of_dropped fun entry => by simp
  · refine (find?_filter_of_kept fun entry => by simp [same]).trans ?_
    exact find?_filter_of_dropped fun entry => by simp [below, same]

theorem entry?_clear_apart (apart : ¬ place <+: other) :
    FileTree.entry? (t.clear place) other = t.entry? other := by
  have same : other ≠ place := by
    rintro rfl
    exact apart List.prefix_rfl
  unfold entry?
  by_cases root : other = []
  · rw [if_pos root, if_pos root]
  · rw [if_neg root, if_neg root]
    have outside : List.isPrefixOf place other = false :=
      Bool.eq_false_iff.mpr (mt List.isPrefixOf_iff_prefix.mp apart)
    refine (find?_filter_of_kept fun entry => by simp [same]).trans ?_
    exact find?_filter_of_kept fun entry => by simp [outside]

theorem removeTree_eq_clear {p : PathName} (led : t.resolve p.text = .ok place)
    (isDirectory : t.isDirectoryAt place = true) (named : p.parts ≠ []) (noDots : p.name ≠ "..") :
    t.removeTree p = t.clear place := by
  simp [removeTree, led, isDirectory, named, noDots, clear]

theorem Extends.clear (h : Extends t t') (grounded : t.IsGrounded) (bare : t.entry? place = none) :
    Extends t (t'.clear place) := by
  refine ⟨h.current, fun other entry there => ?_⟩
  have apart : ¬ place <+: other := by
    rintro ⟨rest, rfl⟩
    rw [grounded.entry?_append bare] at there
    cases there
  rw [entry?_clear_apart apart]
  exact h.kept other entry there

namespace IsGrounded

theorem put (grounded : t.IsGrounded) (entry : Entry) (bare : t.entry? place ≠ some .directory)
    (parent : t.isDirectoryAt place.dropLast = true) : (t.put place entry).IsGrounded := by
  -- Nothing stands in a place that is no directory.
  have kept : ∀ other : Place, t.isDirectoryAt other = true →
      (t.put place entry).isDirectoryAt other = true := by
    intro other isDirectory
    have apart : other ≠ place := by
      rintro rfl
      exact bare (isDirectoryAt_iff.mp isDirectory)
    rwa [isDirectoryAt_put entry apart]
  intro member found
  rcases List.mem_append.mp found with old | new
  · exact kept _ (grounded member (List.mem_filter.mp old).1)
  · obtain rfl := List.mem_singleton.mp new
    exact kept _ parent

theorem clear (grounded : t.IsGrounded) (place : Place) : (t.clear place).IsGrounded := by
  intro member found
  obtain ⟨found, other⟩ := List.mem_filter.mp found
  obtain ⟨found, outside⟩ := List.mem_filter.mp found
  have apart : ¬ place <+: member.1.dropLast := by
    intro below
    have within := List.isPrefixOf_iff_prefix.mpr (below.trans (List.dropLast_prefix member.1))
    simp [within, other] at outside
  rw [isDirectoryAt_iff, entry?_clear_apart apart]
  exact isDirectoryAt_iff.mp (grounded member found)

end IsGrounded
end PageBuild.FileTree
