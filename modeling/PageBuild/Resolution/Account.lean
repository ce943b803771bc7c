import PageBuild.LineMap.Offset
import PageBuild.Resolution.Coverage

/-! What becomes of one error, told by the diagnostic and the metadata alone: a detail that carries
what the diagnostic says, or the reason why the error is skipped. -/
namespace PageBuild

/-- The line, if there is one, has a numeral. No transcript that can be read names any other. -/
def Diagnostic.IsReadable (d : Diagnostic) : Prop :=
  ∀ line ∈ d.line, Decimal.length line.natAbs ≤ Text.numeralLimit

namespace Metadata

def IsConsistent (data : Metadata) : Prop := ∀ member ∈ data.lineMaps.getD [], member.2.IsConsistent

instance (data : Metadata) : Decidable data.IsConsistent :=
  List.decidableBAll _ (data.lineMaps.getD [])

/-- Whether or not the error is placed, that can be told: a line that goes into a message has a
numeral. -/
def CanTell (data : Metadata) (d : Diagnostic) : Prop :=
  data.Places d ∨ ∀ source line, d.source = some source → d.line = some line → 1 ≤ line →
    Decimal.length line.natAbs ≤ Text.numeralLimit

theorem canTell_of_isReadable {data : Metadata} {d : Diagnostic} (readable : d.IsReadable) :
    data.CanTell d :=
  .inr fun _ line _ named _ => readable line named

end Metadata

namespace Finding

/-- What becomes of an error. One that can be placed becomes a detail with its message, its file and
its line, at some line of a template; any other is skipped. -/
inductive Accounts (data : Metadata) (d : Diagnostic) : Finding → Prop
  | placed {detail : ErrorDetail} {line : Int} (places : data.Places d)
      (message : detail.message = d.message) (file : detail.generatedFile = d.source)
      (generated : detail.generatedLine = d.line) (names : d.line = some line)
      (positive : 1 ≤ line) (resolved : 1 ≤ detail.line) : Accounts data d (.detail detail)
  | skipped {reason : String} (unplaced : ¬ data.Places d) : Accounts data d (.skipped reason)

end Finding

theorem Json.mem_of_find? {α : Type} {members : List (String × α)} {name : String} {value : α}
    (h : find? members name = some value) : (name, value) ∈ members := by
  induction members with
  | nil => cases h
  | cons member rest ih =>
    obtain ⟨own, first⟩ := member
    rw [find?] at h
    split at h
    · next same =>
      obtain rfl := Option.some.inj h
      exact same ▸ List.mem_cons_self
    · exact List.mem_cons_of_mem _ (ih h)

theorem LineMaps.mem_of_find? {maps : LineMaps} {source : String} {found : String × LineMap}
    (h : maps.find? source = some found) : found ∈ maps := by
  unfold find? at h
  split at h
  · next m hm => exact Option.some.inj h ▸ Json.mem_of_find? hm
  · exact List.mem_of_find?_eq_some h

theorem LineMap.one_le_of_resolve {m : LineMap} {line : Int} {t : TemplateLine}
    (h : m.resolve line = .ok (some t)) : 1 ≤ t.line := by
  unfold resolve at h
  generalize m.entries = entries at h
  induction entries with
  | nil => simp [resolveBy] at h
  | cons e rest ih =>
    simp only [resolveBy] at h
    split at h
    · exact ih h
    · next n hn =>
      obtain ⟨k, -, rfl⟩ := LineEntry.resolve_eq_some_iff.mp hn
      split at h
      · obtain rfl := Option.some.inj (Except.ok.inj h)
        exact Nat.le_add_right_of_le e.one_le_inputStart
      · cases h

theorem PageNode.covers_of_find? {line : Int} {nodes : List PageNode} {node : PageNode}
    (h : find? line nodes = some node) : node.span.Covers line := by
  induction nodes using find?.induct line generalizing node with
  | case1 => simp [find?] at h
  | case2 span children rest covers inner =>
    simp only [find?, if_pos covers] at h
    cases hinner : find? line children with
    | none =>
      obtain rfl : PageNode.mk span children = node := by simpa [hinner] using h
      exact covers
    | some deeper =>
      obtain rfl : deeper = node := by simpa [hinner] using h
      exact inner hinner
  | case3 span children rest misses others =>
    simp only [find?, if_neg misses] at h
    exact others h

namespace Metadata

variable {data : Metadata}

/-- Consistent line maps answer for every line. -/
theorem IsConsistent.byLineMap (consistent : data.IsConsistent) (source : String) (line : Int) :
    ∃ found?, data.byLineMap source line = .ok found? := by
  unfold Metadata.byLineMap
  split
  · exact ⟨none, rfl⟩
  · next name m found =>
    exact LineMap.resolveBy_of_isConsistent line (consistent _ (LineMaps.mem_of_find? found))

theorem one_le_of_byLineMap {source : String} {line : Int} {t : TemplateLine}
    (h : data.byLineMap source line = .ok (some t)) : 1 ≤ t.line := by
  unfold Metadata.byLineMap at h
  split at h
  · simp at h
  · exact LineMap.one_le_of_resolve h

theorem one_le_of_byPage {line : Int} {span : PageSpan} (h : data.byPage line = some span) :
    1 ≤ span.templateLine line := by
  obtain ⟨node, found, rfl⟩ := Option.map_eq_some_iff.mp h
  have := PageSpan.startLine_le_templateLine (PageNode.covers_of_find? found)
  have := node.span.one_le_startLine
  omega

/-- A detail carries what the diagnostic says. -/
theorem accounts_of_resolve {messages : Messages} {d : Diagnostic} {detail : ErrorDetail}
    (h : data.resolve messages d = .ok detail) : Finding.Accounts data d (.detail detail) := by
  have places := places_of_resolve h
  have ⟨source, line, hsource, hline, positive, _⟩ := places
  simp only [resolve, hsource, hline, if_neg (Int.not_lt.mpr positive), resolveAt] at h
  split at h
  · obtain rfl := Except.ok.inj h
    exact .placed places rfl hsource.symm hline.symm hline positive positive
  · split at h
    · cases h
    · next t mapped =>
      obtain rfl := Except.ok.inj h
      refine .placed places rfl hsource.symm hline.symm hline positive ?_
      exact Int.ofNat_le.mpr (one_le_of_byLineMap mapped)
    · split at h
      · next span paged =>
        obtain rfl := Except.ok.inj h
        exact .placed places rfl hsource.symm hline.symm hline positive (one_le_of_byPage paged)
      · exact absurd h (unmapped_ne_ok _ _ _ _)

end Metadata
end PageBuild
