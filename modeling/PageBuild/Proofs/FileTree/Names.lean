import PageBuild.FileTree

/-! The names that the text of a path leads through: they are the parts of the path. -/
namespace PageBuild

theorem TextFault.of?_append_eq_none_iff {s s' : String} :
    of? (s ++ s') = none ↔ of? s = none ∧ of? s' = none := by
  simp only [of?_eq_none_iff, String.toList_append, List.forall_mem_append]

namespace PathName

variable {p : PathName}

theorem text_of_ne_nil (h : p.parts ≠ []) : p.text = p.anchor.text ++ Text.join "/" p.parts := by
  have noParts : p.parts.isEmpty = false := by simpa using h
  simp [text, noParts]

theorem toList_text (h : p.parts ≠ []) :
    p.text.toList = p.anchor.text.toList ++ List.intercalate ['/'] (p.parts.map String.toList) := by
  rw [text_of_ne_nil h, String.toList_append, Text.join, String.toList_ofList]
  rfl

theorem splitOn_anchor_append (a : Anchor) (s : List Char) :
    ∃ empties, (∀ field ∈ empties, field = []) ∧
      Text.splitOn '/' (a.text.toList ++ s) = empties ++ Text.splitOn '/' s := by
  cases a with
  | relative => exact ⟨[], by simp, rfl⟩
  | root => exact ⟨[[]], by simp, rfl⟩
  | doubleRoot => exact ⟨[[], []], by simp, rfl⟩

theorem getLast?_text_ne (h : p.parts ≠ []) : p.text.toList.getLast? ≠ some '/' := by
  have fields : p.parts.map String.toList ≠ [] := by simpa using h
  obtain ⟨before, ends⟩ := Text.exists_intercalate_eq_append ['/'] fields
  obtain ⟨named, -, noSlash⟩ := p.isPart (p.parts.getLast h) (List.getLast_mem h)
  have last : (p.parts.getLast h).toList ≠ [] := by simpa using named
  rw [toList_text h, ends, List.getLast_map, ← List.append_assoc, List.getLast?_append,
    List.getLast?_eq_some_getLast last, Option.some_or]
  intro slash
  exact noSlash (Option.some.inj slash ▸ List.getLast_mem last)

/-- The text of a path has its characters from the parts, but for slashes and for the dot of a path
without parts. -/
theorem mem_text_iff {c : Char} (noSlash : c ≠ '/') (noDot : c ≠ '.') :
    c ∈ p.text.toList ↔ ∃ part ∈ p.parts, c ∈ part.toList := by
  have noAnchor : c ∉ p.anchor.text.toList := by cases p.anchor <;> simp [Anchor.text, noSlash]
  by_cases named : p.parts = []
  · have bare : c ∉ p.text.toList := by
      rw [text, named]
      cases p.anchor <;> simp [Anchor.text, Text.join, List.intercalate, noSlash, noDot]
    simp [named, bare]
  · rw [toList_text named, List.mem_append, or_iff_right noAnchor]
    constructor
    · intro h
      obtain ⟨field, text, found⟩ := Text.exists_of_mem_intercalate (by simpa using noSlash) h
      obtain ⟨part, member, rfl⟩ := List.mem_map.mp text
      exact ⟨part, member, found⟩
    · rintro ⟨part, member, found⟩
      exact Text.subset_intercalate _ (List.mem_map_of_mem member) found

def IsPassable (p : PathName) : Prop := ∀ part ∈ p.parts, TextFault.of? part = none

instance (p : PathName) : Decidable p.IsPassable := List.decidableBAll _ _

theorem of?_text_eq_none_iff : TextFault.of? p.text = none ↔ p.IsPassable := by
  have plain {c : Char} (odd : c = '/' ∨ c = '.') :
      (Text.isSurrogate c = true → Text.isByte c = true) ∧ c ≠ Char.ofNat 0 := by
    rcases odd with rfl | rfl <;> decide
  simp only [IsPassable, TextFault.of?_eq_none_iff]
  constructor
  · intro passed part member c found
    by_cases odd : c = '/' ∨ c = '.'
    · exact plain odd
    · obtain ⟨noSlash, noDot⟩ := not_or.mp odd
      exact passed c ((mem_text_iff noSlash noDot).mpr ⟨part, member, found⟩)
  · intro passed c found
    by_cases odd : c = '/' ∨ c = '.'
    · exact plain odd
    · obtain ⟨noSlash, noDot⟩ := not_or.mp odd
      obtain ⟨part, member, found⟩ := (mem_text_iff noSlash noDot).mp found
      exact passed part member c found

theorem IsPassable.parent (passable : p.IsPassable) : p.parent.IsPassable := fun part member =>
  passable part ((List.dropLast_sublist _).subset member)

/-- The last part of a path follows a slash. -/
theorem text_concat {q : PathName} {part : String} (h : p.parts ≠ [])
    (anchored : q.anchor = p.anchor) (more : q.parts = p.parts ++ [part]) :
    q.text = p.text ++ "/" ++ part := by
  apply String.toList_inj.mp
  rw [toList_text (by simp [more]), String.toList_append, String.toList_append, toList_text h, more,
    anchored, List.map_append, List.map_singleton, Text.intercalate_concat (by simpa using h)]
  simp

end PathName

namespace FileTree

/-- The text of a path leads through the parts of the path. -/
theorem namesOf_text {p : PathName} (h : p.parts ≠ []) : namesOf p.text = p.parts := by
  have noSlash : ∀ field ∈ p.parts.map String.toList, '/' ∉ field := by
    simp only [List.forall_mem_map]
    intro part member
    exact (p.isPart part member).2.2
  obtain ⟨empties, empty, split⟩ := PathName.splitOn_anchor_append p.anchor
    (List.intercalate ['/'] (p.parts.map String.toList))
  rw [Text.splitOn_intercalate (by simpa using h) noSlash, ← PathName.toList_text h] at split
  have gone : (empties.map String.ofList).filter (· ≠ "") = [] := by
    simp only [List.filter_eq_nil_iff, List.forall_mem_map]
    intro field member
    simp [empty field member]
  have kept : p.parts.filter (· ≠ "") = p.parts := by
    apply List.filter_eq_self.mpr
    intro part member
    simpa using (p.isPart part member).1
  simp only [namesOf, if_neg (PathName.getLast?_text_ne h), split, List.map_append,
    List.filter_append, gone, List.nil_append, List.map_map]
  simpa [Function.comp_def] using kept

end FileTree
end PageBuild
