import PageBuild.Proofs.FileTree.Names
import PageBuild.Proofs.PathName.Joining

/-! Paths and their texts. Every path is read back from its text, so that a text which was brought
into normal form once stays as it is. -/
namespace PageBuild.PathName

theorem eq_of_anchor_of_parts {p q : PathName} (anchor : p.anchor = q.anchor)
    (parts : p.parts = q.parts) : p = q := by
  cases p
  cases q
  simp_all

/-- An anchor is found again in front of what does not begin with a slash. -/
theorem anchorOf_append (a : Anchor) {s : List Char} (h : s.head? ≠ some '/') :
    anchorOf (a.text.toList ++ s) = a := by
  have ends : s.takeWhile (· = '/') = [] := by
    cases s with
    | nil => rfl
    | cons c rest =>
      have apart : c ≠ '/' := by simpa using h
      simp [apart]
  cases a <;> simp [anchorOf, Anchor.text, ends]

/-- Nothing but the fields of a text makes its parts, whatever its anchor. -/
theorem partsOf_append (a : Anchor) (s : List Char) :
    partsOf (a.text.toList ++ s) = partsOf s := by
  obtain ⟨empties, empty, split⟩ := splitOn_anchor_append a s
  have gone : (empties.map String.ofList).filter (fun part => part ≠ "" && part ≠ ".") = [] := by
    simp only [List.filter_eq_nil_iff, List.forall_mem_map]
    intro field member
    simp [empty field member]
  simp only [partsOf, split, List.map_append, List.filter_append, gone, List.nil_append]

theorem partsOf_intercalate {parts : List String} (h : ∀ part ∈ parts, IsPart part) :
    partsOf (List.intercalate ['/'] (parts.map String.toList)) = parts := by
  by_cases none : parts = []
  · subst none
    decide
  · have noSlash : ∀ field ∈ parts.map String.toList, '/' ∉ field := by
      simp only [List.forall_mem_map]
      exact fun part member => (h part member).2.2
    have kept : parts.filter (fun part => part ≠ "" && part ≠ ".") = parts := by
      apply List.filter_eq_self.mpr
      intro part member
      simpa using And.intro (h part member).1 (h part member).2.1
    rw [partsOf, Text.splitOn_intercalate (by simpa using none) noSlash, List.map_map]
    simpa [Function.comp_def] using kept

/-- The first part begins with no slash. -/
theorem head?_intercalate_ne {parts : List String} (h : ∀ part ∈ parts, IsPart part) :
    (List.intercalate ['/'] (parts.map String.toList)).head? ≠ some '/' := by
  cases parts with
  | nil => simp [List.intercalate]
  | cons part rest =>
    obtain ⟨named, -, noSlash⟩ := h part List.mem_cons_self
    obtain ⟨c, more, first⟩ := List.exists_cons_of_ne_nil (l := part.toList) (by simpa using named)
    have apart : c ≠ '/' := by
      rintro rfl
      exact noSlash (first ▸ List.mem_cons_self)
    cases rest <;> simp [List.intercalate, first, apart]

/-- A path is read back from its text. -/
theorem ofText_text (p : PathName) : ofText p.text = p := by
  by_cases named : p.parts = []
  · have bare : p.text = if p.anchor = .relative then "." else p.anchor.text := by
      rw [text, named]
      cases p.anchor <;> decide
    refine eq_of_anchor_of_parts ?_ ?_
    · rw [bare]
      cases p.anchor <;> decide
    · rw [bare, named]
      cases p.anchor <;> decide
  · refine eq_of_anchor_of_parts ?_ ?_
    · change anchorOf p.text.toList = _
      rw [toList_text named, anchorOf_append _ (head?_intercalate_ne p.isPart)]
    · change partsOf p.text.toList = _
      rw [toList_text named, partsOf_append, partsOf_intercalate p.isPart]

theorem text_ne_empty (p : PathName) : p.text ≠ "" := by
  intro empty
  obtain rfl : here = p := by rw [← ofText_text p, empty]; rfl
  exact absurd empty (by decide)

/-- Normal form brings in no characters but slashes and dots. -/
theorem notMem_text_ofText {c : Char} (noSlash : c ≠ '/') (noDot : c ≠ '.') {s : String}
    (h : c ∉ s.toList) : c ∉ (ofText s).text.toList := by
  rw [mem_text_iff noSlash noDot]
  rintro ⟨part, member, found⟩
  exact h (subset_of_mem_partsOf member found)

end PageBuild.PathName
