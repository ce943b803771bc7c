import PageBuild.Schema

/-! The page tree: which generated lines the parts of a page became. A part has the generated lines
of its span, the start included and the end not, and the parts inside it are its children. -/
namespace PageBuild

/-- Where a part of a page stands in its template, and the generated lines it became. -/
structure PageSpan where
  source : String
  startLine : Nat
  generatedStart : Nat
  generatedEnd : Nat
  /-- The generated lines follow the template lines one to one. -/
  lineForLine : Bool := false
  one_le_startLine : 1 ≤ startLine
  one_le_generatedStart : 1 ≤ generatedStart
  one_le_generatedEnd : 1 ≤ generatedEnd
  deriving Repr

namespace PageSpan

def Covers (s : PageSpan) (line : Int) : Prop := s.generatedStart ≤ line ∧ line < s.generatedEnd

instance (s : PageSpan) (line : Int) : Decidable (s.Covers line) :=
  inferInstanceAs (Decidable (_ ∧ _))

def templateLine (s : PageSpan) (line : Int) : Int :=
  if s.lineForLine then s.startLine + (line - s.generatedStart) else s.startLine

/-- No line of the part comes from before its start in the template. -/
theorem startLine_le_templateLine {s : PageSpan} {line : Int} (h : s.Covers line) :
    s.startLine ≤ s.templateLine line := by
  have := h.1
  unfold templateLine
  split <;> omega

end PageSpan

inductive PageNode
  | mk (span : PageSpan) (children : List PageNode)
  deriving Repr

namespace PageNode

def span : PageNode → PageSpan
  | .mk span _ => span

def children : PageNode → List PageNode
  | .mk _ children => children

/-- Of the first sibling that covers the line: the deepest part inside it that is reached in the
same way. -/
def find? (line : Int) : List PageNode → Option PageNode
  | [] => none
  | .mk span children :: rest =>
    if span.Covers line then some ((find? line children).getD (.mk span children))
    else find? line rest

def model : String := "PageNode"

def depthLimit : Nat := 254

/-- The fields of a part; `child` reads its children. -/
def fields (child : Json → Schema.Check PageNode) : List (Schema.Field PageNode) := [
  { name := "source_file", required := true, store := fun j ⟨s, children⟩ => do
      return ⟨{ s with source := ← Schema.text j }, children⟩ },
  { name := "start_line", required := true, store := fun j ⟨s, children⟩ => do
      let ⟨n, h⟩ ← Schema.atLeast 1 j
      return ⟨{ s with startLine := n, one_le_startLine := h }, children⟩ },
  { name := "generated_start_line", required := true, store := fun j ⟨s, children⟩ => do
      let ⟨n, h⟩ ← Schema.atLeast 1 j
      return ⟨{ s with generatedStart := n, one_le_generatedStart := h }, children⟩ },
  { name := "generated_end_line", required := true, store := fun j ⟨s, children⟩ => do
      let ⟨n, h⟩ ← Schema.atLeast 1 j
      return ⟨{ s with generatedEnd := n, one_le_generatedEnd := h }, children⟩ },
  { name := "line_for_line", store := fun j ⟨s, children⟩ => do
      return ⟨{ s with lineForLine := ← Schema.bool j }, children⟩ },
  { name := "children", store := fun j ⟨s, _⟩ => do return ⟨s, ← Schema.list child j⟩ }]

def blank : PageNode :=
  ⟨{ source := "", startLine := 1, generatedStart := 1, generatedEnd := 1
     one_le_startLine := Nat.one_pos, one_le_generatedStart := Nat.one_pos
     one_le_generatedEnd := Nat.one_pos }, []⟩

def checkTo : (depth : Nat) → Json → Schema.Check PageNode
  | 0, _ => Schema.fail .nesting
  | depth + 1, j => Schema.record model (fields (checkTo depth)) blank j

def check : Json → Schema.Check PageNode := checkTo depthLimit

end PageNode

structure PageTree where
  nodes : List PageNode := []
  deriving Repr

namespace PageTree

/-- The deepest part that covers a generated line, by the first covering sibling at every level. -/
def find? (page : PageTree) (line : Int) : Option PageNode := PageNode.find? line page.nodes

def model : String := "PageStructure"

def fields : List (Schema.Field PageTree) := [
  { name := "nodes", store := fun j page => do
      return { page with nodes := ← Schema.list PageNode.check j } }]

def read (j : Json) : Except Schema.Report PageTree :=
  Schema.report model (Schema.record model fields {} j)

end PageTree
end PageBuild
