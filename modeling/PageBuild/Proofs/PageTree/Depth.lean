import PageBuild.PageTree.Position
import PageBuild.Resolution.Account

/-! The part that a page tree leads to. Whatever the tree, it is reached through the first sibling
that covers the line at every level, as far down as any does. If the parts are nested and siblings
have no line in common, the parts that cover a line stand one inside the other, and the tree leads
to the innermost of them. -/
namespace PageBuild

namespace PageNode

variable {nodes : List PageNode} {node other : PageNode} {line : Int} {position : List Nat}

/-- Nothing covers the line if no sibling at the top does. -/
theorem not_covers_of_find? (nested : IsNested nodes) (nothing : find? line nodes = none)
    (h : At nodes position other) : ¬ other.span.Covers line := by
  intro covers
  cases position with
  | nil => cases h
  | cons i rest =>
    obtain ⟨top, htop, topCovers⟩ := h.exists_covers nested covers
    exact PageTree.find?_eq_none_iff.mp (show (PageTree.mk nodes).find? line = none from nothing)
      ⟨top, List.mem_of_getElem? htop, topCovers⟩

/-- A position that starts further right starts at a sibling of the first part. -/
theorem At.eq_zero {first : PageNode} {rest : List PageNode} {i : Nat} {more : List Nat}
    (h : At (first :: rest) (i :: more) other) (nested : IsNested rest)
    (apart : ∀ top ∈ rest, ¬ top.span.Covers line) (covers : other.span.Covers line) : i = 0 := by
  cases i with
  | zero => rfl
  | succ i =>
    obtain ⟨top, htop, topCovers⟩ := (at_succ_iff.mp h).exists_covers nested covers
    exact absurd topCovers (apart top (List.mem_of_getElem? htop))

/-- Where the first part does not cover the line, nothing inside it does. -/
theorem At.exists_succ {first : PageNode} {rest : List PageNode}
    (h : At (first :: rest) position other) (nested : IsNested (first :: rest))
    (misses : ¬ first.span.Covers line) (covers : other.span.Covers line) :
    ∃ i more, position = (i + 1) :: more ∧ At rest (i :: more) other := by
  cases position with
  | nil => cases h
  | cons i more =>
    cases i with
    | zero =>
      obtain ⟨top, htop, topCovers⟩ := h.exists_covers nested covers
      obtain rfl := Option.some.inj htop
      exact absurd topCovers misses
    | succ i => exact ⟨i, more, rfl, at_succ_iff.mp h⟩

/-- The tree leads to a position inside all parts that cover the line. -/
theorem exists_position_of_find? (nested : IsNested nodes) (disjoint : IsDisjoint nodes)
    (h : find? line nodes = some node) : ∃ position, At nodes position node ∧
      ∀ above other, At nodes above other → other.span.Covers line → above <+: position := by
  induction nodes using find?.induct line generalizing node with
  | case1 => simp [find?] at h
  | case2 span children rest covers inner =>
    rw [find?, if_pos covers] at h
    rw [IsNested] at nested
    rw [IsDisjoint] at disjoint
    obtain ⟨-, nestedInner, nestedOuter⟩ := nested
    obtain ⟨apart, disjointInner, -⟩ := disjoint
    have first {i : Nat} {more : List Nat} {other : PageNode}
        (hother : At (.mk span children :: rest) (i :: more) other)
        (otherCovers : other.span.Covers line) : i = 0 :=
      hother.eq_zero nestedOuter (fun top member => apart top member line covers) otherCovers
    cases deeper : find? line children with
    | none =>
      obtain rfl : PageNode.mk span children = node := by simpa [deeper] using h
      refine ⟨[0], .here rfl, fun above other hother otherCovers => ?_⟩
      cases hother with
      | here hi =>
        obtain rfl := first (.here hi) otherCovers
        exact List.prefix_rfl
      | inside hi below =>
        obtain rfl := first (.inside hi below) otherCovers
        obtain rfl := Option.some.inj hi
        exact absurd otherCovers (not_covers_of_find? nestedInner deeper below)
    | some innermost =>
      obtain rfl : innermost = node := by simpa [deeper] using h
      obtain ⟨position, hposition, inside⟩ := inner nestedInner disjointInner deeper
      refine ⟨0 :: position, .inside rfl hposition, fun above other hother otherCovers => ?_⟩
      cases hother with
      | here hi =>
        obtain rfl := first (.here hi) otherCovers
        exact List.prefix_append [0] position
      | inside hi below =>
        obtain rfl := first (.inside hi below) otherCovers
        obtain rfl := Option.some.inj hi
        exact (List.prefix_cons_inj 0).mpr (inside _ _ below otherCovers)
  | case3 span children rest misses others =>
    rw [find?, if_neg misses] at h
    rw [IsNested] at nested
    rw [IsDisjoint] at disjoint
    obtain ⟨position, hposition, inside⟩ := others nested.2.2 disjoint.2.2 h
    cases position with
    | nil => cases hposition
    | cons j tail =>
      refine ⟨(j + 1) :: tail, at_succ_iff.mpr hposition, fun above other hother otherCovers => ?_⟩
      obtain ⟨i, more, rfl, later⟩ :=
        hother.exists_succ (by rw [IsNested]; exact nested) misses otherCovers
      obtain ⟨rfl, below⟩ := List.cons_prefix_cons.mp (inside _ _ later otherCovers)
      exact (List.prefix_cons_inj _).mpr below

/-- The tree is followed down to a part without a child that covers the line. -/
theorem leads_of_find? (h : find? line nodes = some node) :
    Leads line nodes node ∧ ∀ child ∈ node.children, ¬ child.span.Covers line := by
  induction nodes using find?.induct line generalizing node with
  | case1 => simp [find?] at h
  | case2 span children rest covers inner =>
    rw [find?, if_pos covers] at h
    have first : (PageNode.mk span children :: rest).find? (·.span.Covers line) =
        some (.mk span children) := List.find?_cons_of_pos (decide_eq_true covers)
    cases deeper : find? line children with
    | none =>
      obtain rfl : PageNode.mk span children = node := by simpa [deeper] using h
      refine ⟨.here first, fun child member childCovers => ?_⟩
      exact PageTree.find?_eq_none_iff.mp
        (show (PageTree.mk children).find? line = none from deeper) ⟨child, member, childCovers⟩
    | some innermost =>
      obtain rfl : innermost = node := by simpa [deeper] using h
      obtain ⟨leads, last⟩ := inner deeper
      exact ⟨.inside first leads, last⟩
  | case3 span children rest misses others =>
    rw [find?, if_neg misses] at h
    have later : (PageNode.mk span children :: rest).find? (·.span.Covers line) =
        rest.find? (·.span.Covers line) :=
      List.find?_cons_of_neg (by rw [decide_eq_true_eq]; exact misses)
    obtain ⟨leads, last⟩ := others h
    refine ⟨?_, last⟩
    cases leads with
    | here found => exact .here (later.trans found)
    | inside found inner => exact .inside (later.trans found) inner

end PageNode

namespace PageTree

/-- The part covers the line at the position, and every other part that does stands less deep. -/
structure IsDeepest (page : PageTree) (line : Int) (position : List Nat) (node : PageNode) :
    Prop where
  stands : page.At position node
  covers : node.span.Covers line
  deepest : ∀ other otherNode, page.At other otherNode → otherNode.span.Covers line →
    other = position ∨ other.length < position.length

theorem IsDeepest.unique {page : PageTree} {line : Int} {position position' : List Nat}
    {node node' : PageNode} (h : page.IsDeepest line position node)
    (h' : page.IsDeepest line position' node') : position = position' ∧ node = node' := by
  have same : position = position' := by
    rcases h'.deepest _ _ h.stands h.covers with same | shallow
    · exact same
    · rcases h.deepest _ _ h'.stands h'.covers with same | shallow'
      · exact same.symm
      · omega
  subst same
  exact ⟨rfl, h.stands.unique h'.stands⟩

/-- If the parts are nested and siblings have no line in common, the part found for a line is the
one that covers it at the greatest depth, and there is none exactly if nothing covers the line. In
any tree, a part that is found covers the line, none of its children does, and it is reached through
the first sibling that covers the line at every level. -/
theorem find?_eq_deepest (page : PageTree) (line : Int) :
    (page.IsNested → page.IsDisjoint →
      (page.find? line = none ↔ ∀ position node, page.At position node → ¬ node.span.Covers line) ∧
      ∀ node, page.find? line = some node ↔ ∃ position, page.IsDeepest line position node) ∧
    ∀ node, page.find? line = some node → node.span.Covers line ∧
      (∀ child ∈ node.children, ¬ child.span.Covers line) ∧ page.Leads line node := by
  refine ⟨fun nested disjoint => ?_, fun node found => ?_⟩
  · have missing : page.find? line = none ↔
        ∀ position node, page.At position node → ¬ node.span.Covers line := by
      refine ⟨fun nothing _ _ => PageNode.not_covers_of_find? nested nothing, fun uncovered => ?_⟩
      rw [find?_eq_none_iff]
      rintro ⟨node, member, covers⟩
      obtain ⟨i, hi⟩ := List.mem_iff_getElem?.mp member
      exact uncovered [i] node (.here hi) covers
    have deepest : ∀ node, page.find? line = some node →
        ∃ position, page.IsDeepest line position node := by
      intro node found
      obtain ⟨position, stands, inside⟩ := PageNode.exists_position_of_find? nested disjoint found
      refine ⟨position, stands, PageNode.covers_of_find? found, fun other otherNode h covers => ?_⟩
      have above := inside other otherNode h covers
      rcases Nat.lt_or_eq_of_le above.length_le with shallow | same
      · exact .inr shallow
      · exact .inl (above.eq_of_length same)
    refine ⟨missing, fun node => ⟨deepest node, ?_⟩⟩
    rintro ⟨position, isDeepest⟩
    cases found : page.find? line with
    | none => exact absurd isDeepest.covers (missing.mp found _ _ isDeepest.stands)
    | some node' =>
      obtain ⟨position', isDeepest'⟩ := deepest node' found
      rw [(isDeepest'.unique isDeepest).2]
  · obtain ⟨leads, last⟩ := PageNode.leads_of_find? found
    exact ⟨PageNode.covers_of_find? found, last, leads⟩

def included : PageNode := .mk
  { source := "b.jsp", startLine := 17, generatedStart := 12, generatedEnd := 14
    one_le_startLine := Nat.le_add_left 1 16, one_le_generatedStart := Nat.le_add_left 1 11
    one_le_generatedEnd := Nat.le_add_left 1 13 } []

/-- A page whose first part includes another one; its second part starts where the first one
ends. -/
def adjoiningPage : PageTree where
  nodes := [
    .mk
      { source := "a.jsp", startLine := 10, generatedStart := 11, generatedEnd := 16
        one_le_startLine := Nat.le_add_left 1 9, one_le_generatedStart := Nat.le_add_left 1 10
        one_le_generatedEnd := Nat.le_add_left 1 15 } [included],
    .mk
      { source := "c.jsp", startLine := 18, generatedStart := 16, generatedEnd := 19
        one_le_startLine := Nat.le_add_left 1 17, one_le_generatedStart := Nat.le_add_left 1 15
        one_le_generatedEnd := Nat.le_add_left 1 18 } []]

theorem find?_eq_deepest_adjoining :
    adjoiningPage.IsNested ∧ adjoiningPage.IsDisjoint ∧
    (∃ position, adjoiningPage.IsDeepest 13 position included) ∧
    ∀ position node, adjoiningPage.At position node → ¬ node.span.Covers 19 := by
  have nested : adjoiningPage.IsNested := by
    simp only [adjoiningPage, included, IsNested, PageNode.IsNested, PageNode.span,
      PageSpan.Covers, List.forall_mem_cons, List.not_mem_nil]
    grind
  have disjoint : adjoiningPage.IsDisjoint := by
    simp only [adjoiningPage, included, IsDisjoint, PageNode.IsDisjoint, PageNode.span,
      PageSpan.Covers, List.forall_mem_cons, List.not_mem_nil]
    grind
  have inside : adjoiningPage.find? 13 = some included := by
    simp [adjoiningPage, included, find?, PageNode.find?, PageSpan.Covers]
  have behind : adjoiningPage.find? 19 = none := by
    simp [adjoiningPage, find?, PageNode.find?, PageSpan.Covers]
  exact ⟨nested, disjoint,
    (((find?_eq_deepest adjoiningPage 13).1 nested disjoint).2 included).mp inside,
    ((find?_eq_deepest adjoiningPage 19).1 nested disjoint).1.mp behind⟩

end PageTree
end PageBuild
