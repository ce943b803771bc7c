import PageBuild.LineMap.Offset
import PageBuild.PageTree.Sections
import PageBuild.Resolution.Coverage

/-! Page trees read as line maps. Going down the tree, by the first part that covers a line at every
level, ends at the first part that covers the line in the order of the sections. So a line map that
mirrors a page resolves every line as the page does, and errors are resolved alike by either. -/
namespace PageBuild

namespace PageNode

/-- If the parts are nested, the first part in the order of the sections that covers a line is the
one that the tree leads to. -/
theorem find?_spans (line : Int) {nodes : List PageNode} (nested : IsNested nodes) :
    ((spans nodes).find? fun s => s.val.Covers line).map (·.val) =
      (find? line nodes).map (·.span) := by
  induction nodes using spans.induct with
  | case1 => simp [spans, find?]
  | case2 span children rest inner outer =>
    rw [IsNested] at nested
    obtain ⟨within, nestedInner, nestedOuter⟩ := nested
    simp only [spans, find?, List.find?_append, Option.map_or, inner nestedInner,
      outer nestedOuter]
    by_cases covers : span.Covers line
    · have filled : ¬ span.IsEmpty := by
        have := covers.1
        have := covers.2
        unfold PageSpan.IsEmpty
        omega
      cases find? line children <;> simp [covers, filled, PageNode.span]
    · -- Nothing inside the part covers the line, or the part would cover it, too.
      have nothing : find? line children = none := by
        have uncovered : ¬ (PageTree.mk children).Covers line := by
          rintro ⟨child, member, childCovers⟩
          exact covers (within child member line childCovers)
        exact PageTree.find?_eq_none_iff.mpr uncovered
      have own : (if empty : span.IsEmpty then [] else [(⟨span, empty⟩ : FilledSpan)]).find?
          (fun s => s.val.Covers line) = none := by
        split <;> simp [covers]
      simp only [own, nothing, if_neg covers, Option.map_none, Option.none_or]

end PageNode

namespace FilledSpan

variable {s : FilledSpan} {m : LineMap} {e : LineEntry} {line : Int}

/-- The section of a part has exactly the lines of the part, at the offsets of their template
lines. -/
theorem IsSection.hasAt_iff (mirrored : s.IsSection m e) (k : Nat) :
    e.HasAt k line ↔ s.val.Covers line ∧ s.val.templateLine line = s.val.startLine + k := by
  have some := s.one_le_lineCount
  have stop := s.generatedStart_add_lineCount
  unfold LineEntry.HasAt PageSpan.Covers PageSpan.templateLine
  rw [mirrored.outputStart, mirrored.inputCount, mirrored.increment, FilledSpan.inputCount,
    FilledSpan.increment]
  cases s.val.lineForLine with
  | true =>
    simp only [if_true]
    omega
  | false =>
    simp only [Bool.false_eq_true, if_false, Nat.lt_one_iff]
    constructor
    · rintro (⟨-, rfl, lower, upper⟩ | ⟨none, -⟩) <;> omega
    · rintro ⟨⟨lower, upper⟩, first⟩
      obtain rfl : k = 0 := by omega
      refine .inl ⟨some, rfl, ?_, ?_⟩ <;> omega

/-- The section of a part sends every line where the part sends it. -/
theorem IsSection.map_resolve (mirrored : s.IsSection m e) (line : Int) :
    (e.resolve line).map Int.ofNat =
      if s.val.Covers line then some (s.val.templateLine line) else none := by
  cases resolved : e.resolve line with
  | none =>
    refine (if_neg fun covers => ?_).symm
    have := PageSpan.startLine_le_templateLine covers
    have reached : s.val.templateLine line =
        s.val.startLine + (s.val.templateLine line - s.val.startLine).toNat := by omega
    exact LineEntry.resolve_eq_none_iff_hasAt.mp resolved _
      ((mirrored.hasAt_iff _).mpr ⟨covers, reached⟩)
  | some n =>
    obtain ⟨k, has, rfl⟩ := LineEntry.resolve_eq_some_iff.mp resolved
    obtain ⟨covers, offset⟩ := (mirrored.hasAt_iff k).mp has
    rw [if_pos covers, offset, mirrored.inputStart]
    rfl

end FilledSpan

namespace LineMap

variable {m : LineMap}

/-- Sections that mirror parts send a line where the first part that covers it sends it. -/
theorem resolveBy_of_forall₂ {entries : List LineEntry} {spans : List FilledSpan}
    (mirrored : List.Forall₂ (fun e s => s.IsSection m e) entries spans) (line : Int) :
    (m.resolveBy line entries).map (Option.map TemplateLine.coordinates) =
      .ok ((spans.find? fun s => s.val.Covers line).map (·.val.coordinates line)) := by
  induction mirrored with
  | nil => rfl
  | @cons e s entries spans first others ih =>
    have sent := first.map_resolve line
    by_cases covers : s.val.Covers line
    · rw [if_pos covers] at sent
      obtain ⟨n, resolved, same⟩ := Option.map_eq_some_iff.mp sent
      have there : (n : Int) = s.val.templateLine line := same
      simp [resolveBy, resolved, first.file, covers, TemplateLine.coordinates,
        PageSpan.coordinates, Except.map, there]
    · rw [if_neg covers, Option.map_eq_none_iff] at sent
      simpa [resolveBy, sent, covers] using ih

/-- A map that mirrors a page of nested parts resolves every line as the page does. -/
theorem map_resolve_of_mirrors {page : PageTree} (nested : page.IsNested) (mirrors : m.Mirrors page)
    (line : Int) :
    (m.resolve line).map (Option.map TemplateLine.coordinates) =
      .ok ((page.find? line).map (·.span.coordinates line)) := by
  have down := PageNode.find?_spans line nested
  have sent := resolveBy_of_forall₂ mirrors line
  have through : ∀ found : Option FilledSpan, found.map (·.val.coordinates line) =
      (found.map (·.val)).map (·.coordinates line) := fun found => by cases found <;> rfl
  rw [PageTree.spans, through, down, Option.map_map] at sent
  exact sent

end LineMap

namespace Metadata

def resolveByPage (page : PageTree) (messages : Messages) (source : String) (line : Int)
    (message : String) : Except Failure ErrorDetail :=
  match page.find? line with
  | some node => .ok {
      source := node.span.source, line := node.span.templateLine line, message
      generatedFile := some source, generatedLine := some line }
  | none => unmapped messages source line

variable {page : PageTree} {messages : Messages} {maps : LineMaps} {m : LineMap} {d : Diagnostic}
variable {key source : String} {line : Int}

theorem resolve_page (hsource : d.source = some source) (hline : d.line = some line)
    (positive : 1 ≤ line) :
    Metadata.resolve { page := some page } messages d =
      resolveByPage page messages source line d.message := by
  have known : Metadata.isEmpty { page := some page } = false := rfl
  have unmappedLine : Metadata.byLineMap { page := some page } source line = .ok none := rfl
  simp only [resolve, hsource, hline, if_neg (Int.not_lt.mpr positive), resolveAt, known,
    unmappedLine, byPage, resolveByPage, Option.getD_some]
  cases page.find? line <;> rfl

theorem resolve_lineMap (nested : page.IsNested) (mirrors : m.Mirrors page)
    (found : maps.find? source = some (key, m)) (hsource : d.source = some source)
    (hline : d.line = some line) (positive : 1 ≤ line) :
    Metadata.resolve { lineMaps := some maps } messages d =
      resolveByPage page messages source line d.message := by
  have known : Metadata.isEmpty { lineMaps := some maps } = false := by
    cases maps with
    | nil => cases found
    | cons => rfl
  have mapped : Metadata.byLineMap { lineMaps := some maps } source line = m.resolve line := by
    simp [byLineMap, found]
  have unpaged : Metadata.byPage { lineMaps := some maps } line = none :=
    byPage_eq_none_iff.mpr (by simp)
  have sent := LineMap.map_resolve_of_mirrors nested mirrors line
  simp only [resolve, hsource, hline, if_neg (Int.not_lt.mpr positive), resolveAt, known, mapped,
    unpaged, resolveByPage]
  cases hresolve : m.resolve line with
  | error e => simp [hresolve, Except.map] at sent
  | ok resolved =>
    rw [hresolve] at sent
    have same := Except.ok.inj sent
    cases hfind : page.find? line with
    | none =>
      rw [hfind, Option.map_none, Option.map_eq_none_iff] at same
      subst same
      rfl
    | some node =>
      rw [hfind] at same
      obtain ⟨t, rfl, coordinates⟩ := Option.map_eq_some_iff.mp same
      obtain ⟨file, there⟩ := Prod.mk.inj coordinates
      simp [file, there]

/-- A line map that mirrors a page of nested parts sends every line where the page sends it. An
error with a line of a generated file is resolved alike by that map and by the page alone: to the
same detail if the page covers the line, and else it is the fault of a line that is not mapped. -/
theorem resolve_of_mirrors (nested : page.IsNested) (mirrors : m.Mirrors page) :
    (∀ line, (m.resolve line).map (Option.map fun t => (t.file, (t.line : Int))) =
      .ok ((page.find? line).map fun node => (node.span.source, node.span.templateLine line))) ∧
    ∀ (messages : Messages) (maps : LineMaps) (key source : String) (line : Int) (d : Diagnostic),
      maps.find? source = some (key, m) → d.source = some source → d.line = some line → 1 ≤ line →
      Metadata.resolve { lineMaps := some maps } messages d =
        Metadata.resolve { page := some page } messages d ∧
      (∀ node, page.find? line = some node →
        Metadata.resolve { page := some page } messages d = .ok {
          source := node.span.source, line := node.span.templateLine line, message := d.message
          generatedFile := some source, generatedLine := some line }) ∧
      (page.find? line = none → ∀ said,
        messages.say .lineUnmapped [.text source, .int line] = .ok said →
        ∃ f, Metadata.resolve { page := some page } messages d = .error (.fault f) ∧
          f.kind = .unresolved ∧ f.code = some "LINE_UNMAPPED" ∧ f.message = said) := by
  refine ⟨LineMap.map_resolve_of_mirrors nested mirrors, ?_⟩
  intro messages maps key source line d found hsource hline positive
  rw [resolve_lineMap nested mirrors found hsource hline positive,
    resolve_page hsource hline positive, resolveByPage]
  refine ⟨rfl, fun node covered => by rw [covered], fun uncovered said hsaid => ?_⟩
  rw [uncovered]
  simp only [unmapped, hsaid]
  exact ⟨_, rfl, rfl, rfl, rfl⟩

def scriptlet : PageNode := .mk
  { source := "b.jsp", startLine := 7, generatedStart := 3, generatedEnd := 5, lineForLine := true
    one_le_startLine := Nat.le_add_left 1 6, one_le_generatedStart := Nat.le_add_left 1 2
    one_le_generatedEnd := Nat.le_add_left 1 4 } []

/-- A page with a scriptlet inside its first part; its second part overlaps the first. -/
def scriptletPage : PageTree where
  nodes := [
    .mk
      { source := "a.jsp", startLine := 1, generatedStart := 2, generatedEnd := 6
        one_le_startLine := Nat.le_add_left 1 0, one_le_generatedStart := Nat.le_add_left 1 1
        one_le_generatedEnd := Nat.le_add_left 1 5 } [scriptlet],
    .mk
      { source := "c.jsp", startLine := 2, generatedStart := 4, generatedEnd := 9
        one_le_startLine := Nat.le_add_left 1 1, one_le_generatedStart := Nat.le_add_left 1 3
        one_le_generatedEnd := Nat.le_add_left 1 8 } []]

theorem resolve_of_mirrors_scriptlet :
    scriptletPage.IsNested ∧ (scriptletPage.lineMap "A.java" "A").Mirrors scriptletPage ∧
    Metadata.resolve { lineMaps := some [("A.java", scriptletPage.lineMap "A.java" "A")] } {}
      { kind := .error, message := "m", source := some "A.java", line := some 4 } =
      .ok {
        source := "b.jsp", line := 8, message := "m"
        generatedFile := some "A.java", generatedLine := some 4 } := by
  have nested : scriptletPage.IsNested := by
    simp only [scriptletPage, scriptlet, PageTree.IsNested, PageNode.IsNested, PageNode.span,
      PageSpan.Covers, List.forall_mem_cons, List.not_mem_nil]
    grind
  have mirrors := LineMap.mirrors_lineMap scriptletPage "A.java" "A"
  have covered : scriptletPage.find? 4 = some scriptlet := by
    simp [scriptletPage, scriptlet, PageTree.find?, PageNode.find?, PageSpan.Covers]
  obtain ⟨same, detail, -⟩ := (resolve_of_mirrors nested mirrors).2 {}
    [("A.java", scriptletPage.lineMap "A.java" "A")] "A.java" "A.java" 4
    { kind := .error, message := "m", source := some "A.java", line := some 4 } rfl rfl rfl
    (by decide)
  exact ⟨nested, mirrors, same.trans (detail scriptlet covered)⟩

end Metadata
end PageBuild
