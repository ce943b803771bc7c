import PageBuild.PageTree.Sections

/-! Positions in a page tree. A position names one sibling at every level from the top down, so its
length is the depth of the part that stands there. -/
namespace PageBuild

namespace PageNode

inductive At : List PageNode → List Nat → PageNode → Prop
  | here {nodes i node} (h : nodes[i]? = some node) : At nodes [i] node
  | inside {nodes i node rest found} (h : nodes[i]? = some node)
    (inner : At node.children rest found) : At nodes (i :: rest) found

/-- The part is reached by way of the first sibling that covers the line, at every level. -/
inductive Leads (line : Int) : List PageNode → PageNode → Prop
  | here {nodes node} (h : nodes.find? (·.span.Covers line) = some node) : Leads line nodes node
  | inside {nodes node found} (h : nodes.find? (·.span.Covers line) = some node)
    (inner : Leads line node.children found) : Leads line nodes found

def IsDisjoint : List PageNode → Prop
  | [] => True
  | .mk span children :: rest =>
    (∀ other ∈ rest, ∀ line, span.Covers line → ¬ other.span.Covers line) ∧
      IsDisjoint children ∧ IsDisjoint rest

variable {nodes : List PageNode} {node found : PageNode} {i : Nat} {rest : List Nat} {line : Int}

theorem at_succ_iff {first : PageNode} :
    At (first :: nodes) ((i + 1) :: rest) found ↔ At nodes (i :: rest) found := by
  constructor
  · rintro (h | ⟨h, inner⟩)
    · exact .here (by simpa using h)
    · exact .inside (by simpa using h) inner
  · rintro (h | ⟨h, inner⟩)
    · exact .here (by simpa using h)
    · exact .inside (by simpa using h) inner

/-- One part at most stands at a position. -/
theorem At.unique {position : List Nat} {other : PageNode} (h : At nodes position node)
    (h' : At nodes position other) : node = other := by
  induction h with
  | here h =>
    obtain h' | ⟨-, inner⟩ := h'
    · exact Option.some.inj (h.symm.trans h')
    · cases inner
  | inside h inner ih =>
    obtain h' | ⟨h', inner'⟩ := h'
    · cases inner
    · obtain rfl := Option.some.inj (h.symm.trans h')
      exact ih inner'

theorem IsNested.of_mem (nested : IsNested nodes) (member : node ∈ nodes) :
    (∀ child ∈ node.children, ∀ line, child.span.Covers line → node.span.Covers line) ∧
      IsNested node.children := by
  induction nodes with
  | nil => cases member
  | cons first nodes ih =>
    obtain ⟨span, children⟩ := first
    rw [IsNested] at nested
    obtain ⟨within, inner, outer⟩ := nested
    rcases List.mem_cons.mp member with rfl | member
    · exact ⟨within, inner⟩
    · exact ih outer member

/-- A nested part is covered by what it stands in, up to the top. -/
theorem At.exists_covers (nested : IsNested nodes) (h : At nodes (i :: rest) found)
    (covers : found.span.Covers line) : ∃ top, nodes[i]? = some top ∧ top.span.Covers line := by
  generalize hposition : i :: rest = position at h
  induction h generalizing i rest with
  | here h =>
    obtain ⟨rfl, -⟩ := List.cons.inj hposition
    exact ⟨_, h, covers⟩
  | @inside nodes j node more found h inner ih =>
    obtain ⟨rfl, -⟩ := List.cons.inj hposition
    obtain ⟨within, nestedInner⟩ := nested.of_mem (List.mem_of_getElem? h)
    cases more with
    | nil => cases inner
    | cons k more =>
      obtain ⟨child, hchild, childCovers⟩ := ih nestedInner covers rfl
      exact ⟨node, h, within child (List.mem_of_getElem? hchild) line childCovers⟩

end PageNode

namespace PageTree

def At (page : PageTree) (position : List Nat) (node : PageNode) : Prop :=
  PageNode.At page.nodes position node

def Leads (page : PageTree) (line : Int) (node : PageNode) : Prop :=
  PageNode.Leads line page.nodes node

def IsDisjoint (page : PageTree) : Prop := PageNode.IsDisjoint page.nodes

end PageTree
end PageBuild
