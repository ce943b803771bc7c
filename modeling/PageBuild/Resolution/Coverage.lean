import PageBuild.Resolution

/-! What the metadata cover. A line map covers the lines of its sections, and a page tree those of
its outermost parts; whether a diagnostic can be placed depends on nothing else. -/
namespace PageBuild

namespace LineEntry

def Covers (e : LineEntry) (line : Int) : Prop := e.outputStart ≤ line ∧ line < e.outputEnd

instance (e : LineEntry) (line : Int) : Decidable (e.Covers line) :=
  inferInstanceAs (Decidable (_ ∧ _))

theorem resolve_eq_none_iff {e : LineEntry} {line : Int} :
    e.resolve line = none ↔ ¬ e.Covers line := by
  unfold resolve
  split
  · next h =>
    refine iff_of_false ?_ (not_not_intro h)
    split <;> simp
  · next h => exact iff_of_true rfl h

end LineEntry

namespace LineMap

def Covers (m : LineMap) (line : Int) : Prop := ∃ e ∈ m.entries, e.Covers line

instance (m : LineMap) (line : Int) : Decidable (m.Covers line) := List.decidableBEx _ m.entries

theorem resolve_eq_none_iff {m : LineMap} {line : Int} :
    m.resolve line = .ok none ↔ ¬ m.Covers line := by
  simp only [resolve, Covers, not_exists, not_and]
  induction m.entries with
  | nil => simp [resolveBy]
  | cons e rest ih =>
    simp only [resolveBy, List.forall_mem_cons, ← LineEntry.resolve_eq_none_iff (e := e)]
    cases he : e.resolve line with
    | none => simpa using ih
    | some n => cases m.file? e.fileId <;> simp

end LineMap

namespace PageTree

def Covers (page : PageTree) (line : Int) : Prop := ∃ node ∈ page.nodes, node.span.Covers line

instance (page : PageTree) (line : Int) : Decidable (page.Covers line) :=
  List.decidableBEx _ page.nodes

theorem find?_eq_none_iff {page : PageTree} {line : Int} :
    page.find? line = none ↔ ¬ page.Covers line := by
  simp only [find?, Covers, not_exists, not_and]
  induction page.nodes with
  | nil => simp [PageNode.find?]
  | cons node rest ih =>
    obtain ⟨span, children⟩ := node
    have own : (PageNode.mk span children).span = span := rfl
    simp only [PageNode.find?, List.forall_mem_cons, own]
    by_cases h : span.Covers line
    · simp [h]
    · simpa [h] using ih

end PageTree

namespace Metadata

def Covers (data : Metadata) (source : String) (line : Int) : Prop :=
  (∃ found ∈ (data.lineMaps.getD []).find? source, found.2.Covers line) ∨
    ∃ page ∈ data.page, page.Covers line

/-- The diagnostic names a line of a file, and nothing is known about the page or the line is
covered. -/
def Places (data : Metadata) (d : Diagnostic) : Prop :=
  ∃ source line, d.source = some source ∧ d.line = some line ∧ 1 ≤ line ∧
    (data.isEmpty = true ∨ data.Covers source line)

theorem byLineMap_eq_none_iff {data : Metadata} {source : String} {line : Int} :
    data.byLineMap source line = .ok none ↔
      ¬ ∃ found ∈ (data.lineMaps.getD []).find? source, found.2.Covers line := by
  unfold byLineMap
  cases (data.lineMaps.getD []).find? source with
  | none => simp
  | some found => simp [LineMap.resolve_eq_none_iff]

theorem byPage_eq_none_iff {data : Metadata} {line : Int} :
    data.byPage line = none ↔ ¬ ∃ page ∈ data.page, page.Covers line := by
  unfold byPage
  cases data.page with
  | none => simp [PageTree.find?, PageNode.find?]
  | some page => simp [PageTree.find?_eq_none_iff]

theorem incomplete_ne_ok (messages : Messages) (d : Diagnostic) (detail : ErrorDetail) :
    incomplete messages d ≠ .ok detail :=
  messages.say_bind_throw_ne_ok _ _ _ detail

theorem unmapped_ne_ok (messages : Messages) (source : String) (line : Int)
    (detail : ErrorDetail) : unmapped messages source line ≠ .ok detail :=
  messages.say_bind_throw_ne_ok _ _ _ detail

/-- Only an error that can be placed is resolved. -/
theorem places_of_resolve {data : Metadata} {messages : Messages} {d : Diagnostic}
    {detail : ErrorDetail} (h : data.resolve messages d = .ok detail) : data.Places d := by
  unfold resolve at h
  split at h
  · next source line hsource hline =>
    split at h
    · exact absurd h (incomplete_ne_ok _ _ _)
    · refine ⟨source, line, hsource, hline, by omega, ?_⟩
      unfold resolveAt at h
      by_cases empty : data.isEmpty = true
      · exact .inl empty
      · refine .inr (Classical.byContradiction fun uncovered => ?_)
        rw [Covers, not_or] at uncovered
        obtain ⟨unmappedLine, unpaged⟩ := uncovered
        simp only [if_neg empty, byLineMap_eq_none_iff.mpr unmappedLine,
          byPage_eq_none_iff.mpr unpaged] at h
        exact unmapped_ne_ok _ _ _ _ h
  · exact absurd h (incomplete_ne_ok _ _ _)

/-- An error that can be placed is resolved, unless its line map is not consistent. -/
theorem resolve_of_places {data : Metadata} (messages : Messages) {d : Diagnostic}
    (h : data.Places d) :
    (∃ detail, data.resolve messages d = .ok detail) ∨
      data.resolve messages d = .error .key ∧
        ∃ source line e, data.byLineMap source line = .error e := by
  obtain ⟨source, line, hsource, hline, positive, covered⟩ := h
  simp only [resolve, hsource, hline, if_neg (show ¬ line < 1 by omega), resolveAt]
  by_cases empty : data.isEmpty = true
  · exact .inl ⟨_, if_pos empty⟩
  · simp only [if_neg empty]
    cases hmap : data.byLineMap source line with
    | error e => exact .inr ⟨rfl, source, line, e, hmap⟩
    | ok found? =>
      cases found? with
      | some found => exact .inl ⟨_, rfl⟩
      | none =>
        cases hpage : data.byPage line with
        | some span => exact .inl ⟨_, rfl⟩
        | none =>
          rcases covered with covered | covered | covered
          · contradiction
          · exact absurd covered (byLineMap_eq_none_iff.mp hmap)
          · exact absurd covered (byPage_eq_none_iff.mp hpage)

/-- What becomes of an error: a detail if the error can be placed, and a skip if not. -/
theorem isSome_detail?_iff_places {data : Metadata} {messages : Messages} {d : Diagnostic}
    {found : Finding} (h : data.finding messages d = .ok found) :
    found.detail?.isSome = true ↔ data.Places d := by
  unfold finding at h
  split at h
  · next detail hresolve =>
    obtain rfl := Except.ok.inj h
    exact iff_of_true rfl (places_of_resolve hresolve)
  · next f hresolve =>
    split at h
    · obtain rfl := Except.ok.inj h
      refine iff_of_false (by simp [Finding.detail?]) ?_
      intro places
      rcases resolve_of_places messages places with ⟨detail, hdetail⟩ | ⟨hkey, -⟩
      · simp [hresolve] at hdetail
      · simp [hresolve] at hkey
    · contradiction
  · contradiction

/-- Where nothing fails, the details come from the errors that can be placed. -/
theorem details_eq_nil_iff {data : Metadata} {messages : Messages} {diagnostics : List Diagnostic}
    {found : List Finding} (h : data.findings messages diagnostics = (found, none)) :
    found.filterMap (·.detail?) = [] ↔
      ∀ d ∈ diagnostics, d.isError = true → ¬ data.Places d := by
  induction diagnostics generalizing found with
  | nil =>
    obtain ⟨rfl, -⟩ := Prod.mk.inj h
    simp
  | cons d rest ih =>
    rw [List.forall_mem_cons]
    simp only [findings] at h
    split at h
    · next isError =>
      cases hfinding : data.finding messages d with
      | error e => simp [hfinding] at h
      | ok first =>
        rcases hrest : data.findings messages rest with ⟨more, failure?⟩
        simp only [hfinding, hrest, Prod.mk.injEq] at h
        obtain ⟨rfl, rfl⟩ := h
        have placed := isSome_detail?_iff_places hfinding
        rw [← ih hrest, ← placed, List.filterMap_cons]
        cases first.detail? <;> simp [isError]
    · next notError => simpa [notError] using ih h

end Metadata
end PageBuild
