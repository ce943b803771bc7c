import Mathlib.Data.List.Forall2
import PageBuild.LineMap
import PageBuild.PageTree

/-! Page trees as line maps. Every part that became generated lines is a section of its own, and
children come before their parents, so that the first section that has a line is that of the
deepest part. The numbers of the files are free, as long as each section names the file of its
part. -/
namespace PageBuild

namespace PageSpan

def IsEmpty (s : PageSpan) : Prop := s.generatedEnd ≤ s.generatedStart

instance (s : PageSpan) : Decidable s.IsEmpty := inferInstanceAs (Decidable (_ ≤ _))

def lineCount (s : PageSpan) : Nat := s.generatedEnd - s.generatedStart

def coordinates (s : PageSpan) (line : Int) : String × Int := (s.source, s.templateLine line)

end PageSpan

def TemplateLine.coordinates (t : TemplateLine) : String × Int := (t.file, t.line)

abbrev FilledSpan := { s : PageSpan // ¬ s.IsEmpty }

namespace FilledSpan

theorem one_le_lineCount (s : FilledSpan) : 1 ≤ s.val.lineCount := by
  have := s.property
  unfold PageSpan.IsEmpty at this
  unfold PageSpan.lineCount
  omega

theorem generatedStart_add_lineCount (s : FilledSpan) :
    s.val.generatedStart + s.val.lineCount = s.val.generatedEnd := by
  have := s.property
  unfold PageSpan.IsEmpty at this
  unfold PageSpan.lineCount
  omega

/-- How many template lines the section of the part has: as many as generated lines if these follow
the template one to one, and else the one where the part starts. -/
def inputCount (s : FilledSpan) : Nat := if s.val.lineForLine then s.val.lineCount else 1

def increment (s : FilledSpan) : Nat := if s.val.lineForLine then 1 else s.val.lineCount

theorem one_le_inputCount (s : FilledSpan) : 1 ≤ s.inputCount := by
  have := s.one_le_lineCount
  unfold inputCount
  split <;> omega

/-- The section of the map says of its generated lines what the part says of them. -/
structure IsSection (s : FilledSpan) (m : LineMap) (e : LineEntry) : Prop where
  inputStart : e.inputStart = s.val.startLine
  outputStart : e.outputStart = s.val.generatedStart
  inputCount : e.inputCount = s.inputCount
  increment : e.increment = s.increment
  file : m.file? e.fileId = some s.val.source

def entry (s : FilledSpan) (fileId : Nat) : LineEntry where
  inputStart := s.val.startLine
  outputStart := s.val.generatedStart
  inputCount := s.inputCount
  increment := s.increment
  fileId := fileId
  one_le_inputStart := s.val.one_le_startLine
  one_le_outputStart := s.val.one_le_generatedStart
  one_le_inputCount := s.one_le_inputCount

theorem isSection_entry {s : FilledSpan} {m : LineMap} {fileId : Nat}
    (file : m.file? fileId = some s.val.source) : s.IsSection m (s.entry fileId) :=
  ⟨rfl, rfl, rfl, rfl, file⟩

end FilledSpan

namespace PageNode

def IsNested : List PageNode → Prop
  | [] => True
  | .mk span children :: rest =>
    (∀ child ∈ children, ∀ line, child.span.Covers line → span.Covers line) ∧
      IsNested children ∧ IsNested rest

/-- The parts that became generated lines, children before their parents. -/
def spans : List PageNode → List FilledSpan
  | [] => []
  | .mk span children :: rest =>
    spans children ++ (if empty : span.IsEmpty then [] else [⟨span, empty⟩]) ++ spans rest

end PageNode

namespace PageTree

def IsNested (page : PageTree) : Prop := PageNode.IsNested page.nodes

def spans (page : PageTree) : List FilledSpan := PageNode.spans page.nodes

def lineMap (page : PageTree) (generatedFile className : String) : LineMap where
  generatedFile := generatedFile
  className := className
  files := page.spans.mapIdx fun id s => (id, s.val.source)
  entries := page.spans.mapIdx fun id s => s.entry id

end PageTree

namespace LineMap

/-- The sections of the map are those of the parts of the page, in their order. -/
def Mirrors (m : LineMap) (page : PageTree) : Prop :=
  List.Forall₂ (fun e s => s.IsSection m e) m.entries page.spans

theorem file?_lineMap {page : PageTree} {generatedFile className : String} {id : Nat}
    (h : id < page.spans.length) :
    (page.lineMap generatedFile className).file? id = some page.spans[id].val.source := by
  have found : (page.lineMap generatedFile className).files.find? (·.1 = (id : Int)) =
      some ((id : Int), page.spans[id].val.source) := by
    refine List.find?_eq_some_iff_getElem.mpr ⟨by simp, id, by simpa [PageTree.lineMap], ?_, ?_⟩
    · simp [PageTree.lineMap]
    · intro earlier before
      simp only [PageTree.lineMap, List.getElem_mapIdx]
      simp
      omega
  rw [file?, found]
  rfl

/-- Every page has a map that mirrors it. -/
theorem mirrors_lineMap (page : PageTree) (generatedFile className : String) :
    (page.lineMap generatedFile className).Mirrors page := by
  refine List.forall₂_iff_get.mpr ⟨by simp [PageTree.lineMap], fun id hentry hspan => ?_⟩
  have own : (page.lineMap generatedFile className).entries.get ⟨id, hentry⟩ =
      page.spans[id].entry id := by simp [PageTree.lineMap]
  rw [own]
  exact FilledSpan.isSection_entry (file?_lineMap hspan)

end LineMap
end PageBuild
