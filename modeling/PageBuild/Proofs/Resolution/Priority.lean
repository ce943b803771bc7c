import Mathlib.Data.List.Basic
import PageBuild.Proofs.Resolution.Conservation

/-! Which metadata count. Of all line maps one counts for a file, and if that map covers a line, the
page is never asked for it; what a page can change is told by that. -/
namespace PageBuild

namespace Json

variable {α : Type} {members : List (String × α)} {name : String}

/-- Under names of their own all values are found. -/
theorem find?_eq_some_iff (distinct : (members.map Prod.fst).Nodup) {value : α} :
    find? members name = some value ↔ (name, value) ∈ members := by
  refine ⟨mem_of_find?, fun member => ?_⟩
  induction members with
  | nil => cases member
  | cons first rest ih =>
    rw [List.map_cons, List.nodup_cons] at distinct
    rcases List.mem_cons.mp member with rfl | later
    · simp [find?]
    · have other : first.1 ≠ name := by
        rintro rfl
        exact distinct.1 (List.mem_map.mpr ⟨_, later, rfl⟩)
      rw [find?, if_neg other]
      exact ih distinct.2 later

end Json

namespace LineMaps

def Suits (source : String) (member : String × LineMap) : Prop :=
  (PathName.ofText member.1).name = (PathName.ofText source).name ∨
    (PathName.ofText member.2.generatedFile).name = (PathName.ofText source).name

instance (source : String) (member : String × LineMap) : Decidable (Suits source member) :=
  inferInstanceAs (Decidable (_ ∨ _))

/-- The line map that counts for a generated file: the one that is stored under its path, wherever
that is, or else the first one that suits it. -/
inductive IsFor (maps : LineMaps) (source : String) (m : LineMap) : Prop
  | stored (member : (source, m) ∈ maps)
  | first {before after : LineMaps} {key : String} (unstored : source ∉ maps.map Prod.fst)
      (split : maps = before ++ (key, m) :: after) (suits : Suits source (key, m))
      (earlier : ∀ member ∈ before, ¬ Suits source member)

variable {maps : LineMaps} {source : String} {m : LineMap}

theorem IsFor.ne_nil (h : maps.IsFor source m) : maps ≠ [] := by
  rintro rfl
  cases h with
  | stored member => cases member
  | first unstored split => simp at split

/-- The lookup finds the line map that counts. -/
theorem find?_eq_some_iff_isFor (distinct : (maps.map Prod.fst).Nodup) :
    (∃ key, maps.find? source = some (key, m)) ↔ maps.IsFor source m := by
  constructor
  · rintro ⟨key, found⟩
    unfold find? at found
    split at found
    · next stored =>
      cases found
      exact .stored (Json.mem_of_find? stored)
    · next unstored =>
      obtain ⟨suits, before, after, split, earlier⟩ := List.find?_eq_some_iff_append.mp found
      refine .first (Json.find?_eq_none_iff.mp unstored) split ?_ fun member inside => ?_
      · simpa [Suits] using suits
      · simpa [Suits] using earlier member inside
  · intro counts
    unfold find?
    cases counts with
    | stored member =>
      rw [(Json.find?_eq_some_iff distinct).mpr member]
      exact ⟨source, rfl⟩
    | @first before after key unstored split suits earlier =>
      rw [Json.find?_eq_none_iff.mpr unstored]
      refine ⟨key, List.find?_eq_some_iff_append.mpr ⟨?_, before, after, split, ?_⟩⟩
      · simpa [Suits] using suits
      · intro member inside
        simpa [Suits] using earlier member inside

end LineMaps

namespace Metadata

def Maps (data : Metadata) (source : String) (line : Int) : Prop :=
  ∃ m, (data.lineMaps.getD []).IsFor source m ∧ m.Covers line

def Pages (data : Metadata) (line : Int) : Prop := ∃ page ∈ data.page, page.Covers line

/-- Where a line of a generated file came from: where its line map says, or else where the page
says; without any metadata it stands for itself. -/
inductive Locates (data : Metadata) (source : String) (line : Int) : (file : String) → Int → Prop
  | generated (unknown : data.lineMaps.getD [] = []) (unpaged : data.page = none) :
    Locates data source line source line
  | mapped {m : LineMap} {t : TemplateLine} (counts : (data.lineMaps.getD []).IsFor source m)
      (resolved : m.resolve line = .ok (some t)) : Locates data source line t.file t.line
  | paged {page : PageTree} {node : PageNode} (unmapped : ¬ data.Maps source line)
      (there : data.page = some page) (found : page.find? line = some node) :
    Locates data source line node.span.source (node.span.templateLine line)

variable {data : Metadata} {source : String} {line : Int}

def IsKeyed (data : Metadata) : Prop := ((data.lineMaps.getD []).map Prod.fst).Nodup

instance (data : Metadata) : Decidable data.IsKeyed := inferInstanceAs (Decidable (List.Nodup _))

theorem found_covers_iff_maps (keyed : data.IsKeyed) :
    (∃ found ∈ (data.lineMaps.getD []).find? source, found.2.Covers line) ↔
      data.Maps source line := by
  constructor
  · rintro ⟨⟨key, m⟩, found, covers⟩
    exact ⟨m, (LineMaps.find?_eq_some_iff_isFor keyed).mp ⟨key, found⟩, covers⟩
  · rintro ⟨m, counts, covers⟩
    obtain ⟨key, found⟩ := (LineMaps.find?_eq_some_iff_isFor keyed).mpr counts
    exact ⟨(key, m), found, covers⟩

theorem byLineMap_eq_some_iff (keyed : data.IsKeyed) {t : TemplateLine} :
    data.byLineMap source line = .ok (some t) ↔
      ∃ m, (data.lineMaps.getD []).IsFor source m ∧ m.resolve line = .ok (some t) := by
  unfold byLineMap
  constructor
  · intro answered
    split at answered
    · cases answered
    · next key m found =>
      exact ⟨m, (LineMaps.find?_eq_some_iff_isFor keyed).mp ⟨key, found⟩, answered⟩
  · rintro ⟨m, counts, resolved⟩
    obtain ⟨key, found⟩ := (LineMaps.find?_eq_some_iff_isFor keyed).mpr counts
    rw [found]
    exact resolved

theorem byLineMap_eq_none_iff_not_maps (keyed : data.IsKeyed) :
    data.byLineMap source line = .ok none ↔ ¬ data.Maps source line := by
  rw [byLineMap_eq_none_iff, found_covers_iff_maps keyed]

theorem byPage_eq_some_iff {span : PageSpan} :
    data.byPage line = some span ↔
      ∃ page node, data.page = some page ∧ page.find? line = some node ∧ node.span = span := by
  unfold byPage
  cases data.page with
  | none => simp [PageTree.find?, PageNode.find?]
  | some page => simp

theorem isEmpty_iff : data.isEmpty = true ↔ data.lineMaps.getD [] = [] ∧ data.page = none := by
  simp [isEmpty]

def placed (source : String) (line : Int) (message file : String) (n : Int) : ErrorDetail :=
  { source := file, line := n, message, generatedFile := some source, generatedLine := some line }

theorem resolveAt_eq_ok_iff (keyed : data.IsKeyed) {messages : Messages} {message : String}
    {detail : ErrorDetail} :
    data.resolveAt messages source line message = .ok detail ↔
      ∃ file n, data.Locates source line file n ∧ detail = placed source line message file n := by
  unfold resolveAt
  constructor
  · intro resolved
    split at resolved
    · next empty =>
      obtain ⟨unknown, unpaged⟩ := isEmpty_iff.mp empty
      exact ⟨source, line, .generated unknown unpaged, (Except.ok.inj resolved).symm⟩
    · split at resolved
      · cases resolved
      · next t answered =>
        obtain ⟨m, counts, mapped⟩ := (byLineMap_eq_some_iff keyed).mp answered
        exact ⟨t.file, t.line, .mapped counts mapped, (Except.ok.inj resolved).symm⟩
      · next unanswered =>
        split at resolved
        · next span answered =>
          obtain ⟨page, node, there, found, rfl⟩ := byPage_eq_some_iff.mp answered
          have unmapped := (byLineMap_eq_none_iff_not_maps keyed).mp unanswered
          exact ⟨_, _, .paged unmapped there found, (Except.ok.inj resolved).symm⟩
        · exact absurd resolved (unmapped_ne_ok _ _ _ _)
  · rintro ⟨file, n, locates, rfl⟩
    cases locates with
    | generated unknown unpaged =>
      rw [if_pos (isEmpty_iff.mpr ⟨unknown, unpaged⟩)]
      rfl
    | @mapped m t counts resolved =>
      have known : ¬ data.isEmpty = true := fun empty =>
        counts.ne_nil (isEmpty_iff.mp empty).1
      have answered := (byLineMap_eq_some_iff keyed).mpr ⟨m, counts, resolved⟩
      simp only [if_neg known, answered, placed]
    | @paged page node unmapped there found =>
      have known : ¬ data.isEmpty = true := by simp [isEmpty_iff, there]
      have unanswered := (byLineMap_eq_none_iff_not_maps keyed).mpr unmapped
      have answered := byPage_eq_some_iff.mpr ⟨page, node, there, found, rfl⟩
      simp only [if_neg known, unanswered, answered, placed]

/-- The detail of a diagnostic is that of its line, if it names one. -/
theorem resolve_eq_ok_iff (keyed : data.IsKeyed) {messages : Messages} {d : Diagnostic}
    {detail : ErrorDetail} :
    data.resolve messages d = .ok detail ↔
      ∃ source line file n, d.source = some source ∧ d.line = some line ∧ 1 ≤ line ∧
        data.Locates source line file n ∧ detail = placed source line d.message file n := by
  constructor
  · intro resolved
    obtain ⟨source, line, hsource, hline, positive, -⟩ := places_of_resolve resolved
    simp only [resolve, hsource, hline, if_neg (Int.not_lt.mpr positive)] at resolved
    obtain ⟨file, n, locates, rfl⟩ := (resolveAt_eq_ok_iff keyed).mp resolved
    exact ⟨source, line, file, n, hsource, hline, positive, locates, rfl⟩
  · rintro ⟨source, line, file, n, hsource, hline, positive, locates, rfl⟩
    simp only [resolve, hsource, hline, if_neg (Int.not_lt.mpr positive)]
    exact (resolveAt_eq_ok_iff keyed).mpr ⟨file, n, locates, rfl⟩

theorem exists_detail_iff (consistent : data.IsConsistent) (keyed : data.IsKeyed)
    (messages : Messages) (d : Diagnostic) :
    (∃ detail, data.resolve messages d = .ok detail) ↔
      ∃ source line, d.source = some source ∧ d.line = some line ∧ 1 ≤ line ∧
        (data.lineMaps.getD [] = [] ∧ data.page = none ∨
          data.Maps source line ∨ data.Pages line) := by
  have covers : ∀ source line, data.Covers source line ↔
      data.Maps source line ∨ data.Pages line :=
    fun source line => or_congr (found_covers_iff_maps keyed) Iff.rfl
  have places : (∃ detail, data.resolve messages d = .ok detail) ↔ data.Places d :=
    ⟨fun ⟨_, resolved⟩ => places_of_resolve resolved, exists_detail consistent messages⟩
  simp only [places, Places, isEmpty_iff, covers]

/-- Where there are line maps, only what is covered is resolved. -/
theorem exists_detail_iff_of_known (consistent : data.IsConsistent) (keyed : data.IsKeyed)
    (known : data.lineMaps.getD [] ≠ []) (messages : Messages) {d : Diagnostic}
    (hsource : d.source = some source) (hline : d.line = some line) :
    (∃ detail, data.resolve messages d = .ok detail) ↔
      1 ≤ line ∧ (data.Maps source line ∨ data.Pages line) := by
  rw [exists_detail_iff consistent keyed]
  constructor
  · rintro ⟨source', line', hsource', hline', positive, ⟨unknown, -⟩ | covered⟩
    · exact absurd unknown known
    · obtain rfl := Option.some.inj (hsource.symm.trans hsource')
      obtain rfl := Option.some.inj (hline.symm.trans hline')
      exact ⟨positive, covered⟩
  · rintro ⟨positive, covered⟩
    exact ⟨source, line, hsource, hline, positive, .inr covered⟩

/-! Another page. -/

theorem Locates.of_maps {file : String} {n : Int} (h : data.Locates source line file n)
    (maps : data.Maps source line) (page : Option PageTree) :
    { data with page }.Locates source line file n := by
  cases h with
  | generated unknown =>
    obtain ⟨m, counts, -⟩ := maps
    exact absurd unknown counts.ne_nil
  | mapped counts resolved => exact .mapped counts resolved
  | paged unmapped => exact absurd maps unmapped

/-- Where the line maps resolve a line, no page alters that. -/
theorem resolve_of_maps (keyed : data.IsKeyed) {messages : Messages} {d : Diagnostic}
    {detail : ErrorDetail} (hsource : d.source = some source) (hline : d.line = some line)
    (maps : data.Maps source line) (page : Option PageTree)
    (resolved : data.resolve messages d = .ok detail) :
    { data with page }.resolve messages d = .ok detail := by
  obtain ⟨source', line', file, n, hsource', hline', positive, locates, rfl⟩ :=
    (resolve_eq_ok_iff keyed).mp resolved
  obtain rfl := Option.some.inj (hsource.symm.trans hsource')
  obtain rfl := Option.some.inj (hline.symm.trans hline')
  have kept : { data with page }.IsKeyed := keyed
  exact (resolve_eq_ok_iff kept).mpr
    ⟨source, line, file, n, hsource, hline, positive, locates.of_maps maps page, rfl⟩

/-- A diagnostic is resolved by its line map, or else by the page, or by nothing if there are
neither. Where there are line maps, no page alters what they resolve, a first page keeps whatever
was resolved, and after a change of the page a diagnostic is still resolved just if its line map or
the new page covers its line. -/
theorem resolve_eq_ok_iff_locates (consistent : data.IsConsistent) (keyed : data.IsKeyed) :
    (∀ source m, (∃ key, (data.lineMaps.getD []).find? source = some (key, m)) ↔
      (data.lineMaps.getD []).IsFor source m) ∧
    (∀ messages d, (∃ detail, data.resolve messages d = .ok detail) ↔
      ∃ source line, d.source = some source ∧ d.line = some line ∧ 1 ≤ line ∧
        (data.lineMaps.getD [] = [] ∧ data.page = none ∨
          data.Maps source line ∨ data.Pages line)) ∧
    (∀ messages d detail, data.resolve messages d = .ok detail ↔
      ∃ source line file n, d.source = some source ∧ d.line = some line ∧ 1 ≤ line ∧
        data.Locates source line file n ∧ detail = placed source line d.message file n) ∧
    (data.lineMaps.getD [] ≠ [] → ∀ messages d source line,
      d.source = some source → d.line = some line → ∀ page : Option PageTree,
      (data.Maps source line → ∀ detail, data.resolve messages d = .ok detail ↔
        { data with page }.resolve messages d = .ok detail) ∧
      (data.page = none → ∀ detail, data.resolve messages d = .ok detail →
        { data with page }.resolve messages d = .ok detail) ∧
      ((∃ detail, data.resolve messages d = .ok detail) →
        ((∃ detail, { data with page }.resolve messages d = .ok detail) ↔
          data.Maps source line ∨ { data with page }.Pages line))) := by
  refine ⟨fun source m => LineMaps.find?_eq_some_iff_isFor keyed,
    fun messages d => exists_detail_iff consistent keyed messages d,
    fun messages d detail => resolve_eq_ok_iff keyed, ?_⟩
  intro known messages d source line hsource hline page
  have changedKeyed : { data with page }.IsKeyed := keyed
  have changedConsistent : { data with page }.IsConsistent := consistent
  refine ⟨fun maps detail => ⟨?_, ?_⟩, fun unpaged detail resolved => ?_, fun resolvable => ?_⟩
  · exact resolve_of_maps keyed hsource hline maps page
  · exact resolve_of_maps changedKeyed hsource hline maps data.page
  · refine resolve_of_maps keyed hsource hline ?_ page resolved
    obtain ⟨-, maps | ⟨first, there, -⟩⟩ := (exists_detail_iff_of_known consistent keyed known
      messages hsource hline).mp ⟨detail, resolved⟩
    · exact maps
    · rw [unpaged] at there
      cases there
  · have positive := ((exists_detail_iff_of_known consistent keyed known messages hsource
      hline).mp resolvable).1
    have changed := exists_detail_iff_of_known changedConsistent changedKeyed known messages hsource
      hline
    rw [changed]
    exact ⟨fun covered => covered.2, fun covered => ⟨positive, covered⟩⟩

def mapOf (generatedFile template : String) : LineMap where
  generatedFile := generatedFile
  className := "A"
  files := [(0, template)]
  entries := [{ inputStart := 2, outputStart := 1, increment := 4
                one_le_inputStart := Nat.two_pos, one_le_outputStart := Nat.one_pos
                one_le_inputCount := Nat.one_pos }]

/-- The map that is stored under the file comes behind one that only has its base name. -/
def twoMaps : Metadata where
  lineMaps := some [("gen/A.java", mapOf "gen/A.java" "a.jsp"), ("A.java", mapOf "B.java" "b.jsp")]

def broken (line : Int) : Diagnostic :=
  { kind := .error, message := "boom", source := some "A.java", line := some line }

theorem resolve_eq_ok_iff_locates_twoMaps :
    twoMaps.IsConsistent ∧ twoMaps.IsKeyed ∧ ∀ page : Option PageTree,
      { twoMaps with page }.resolve {} (broken 4) = .ok (placed "A.java" 4 "boom" "b.jsp" 2) := by
  have consistent : twoMaps.IsConsistent := by decide
  have keyed : twoMaps.IsKeyed := by decide
  have counts : (twoMaps.lineMaps.getD []).IsFor "A.java" (mapOf "B.java" "b.jsp") :=
    .stored (by decide)
  obtain ⟨-, -, located, kept⟩ := resolve_eq_ok_iff_locates consistent keyed
  have resolved := (located {} (broken 4) _).mpr
    ⟨"A.java", 4, _, _, rfl, rfl, by decide, .mapped counts (t := ⟨"b.jsp", 2⟩) rfl, rfl⟩
  have maps : twoMaps.Maps "A.java" 4 := ⟨_, counts, by decide⟩
  exact ⟨consistent, keyed, fun page =>
    ((kept nofun {} (broken 4) "A.java" 4 rfl rfl page).1 maps _).mp resolved⟩

def onePart : PageTree where
  nodes := [.mk
    { source := "a.jsp", startLine := 1, generatedStart := 1, generatedEnd := 10
      one_le_startLine := Nat.one_pos, one_le_generatedStart := Nat.one_pos
      one_le_generatedEnd := Nat.succ_pos 9 } []]

/-- What only the page resolves is lost with that page. -/
theorem not_resolve_of_changed_page : ¬ ∀ (data : Metadata) (changed : PageTree)
    (messages : Messages) (d : Diagnostic), data.IsConsistent → data.IsKeyed →
    data.lineMaps.getD [] ≠ [] → (∃ detail, data.resolve messages d = .ok detail) →
    ∃ detail, { data with page := some changed }.resolve messages d = .ok detail := by
  intro claimed
  let paged : Metadata :=
    { lineMaps := some [("B.java", mapOf "B.java" "b.jsp")], page := some onePart }
  have consistent : paged.IsConsistent := by decide
  have covered : paged.Places (broken 2) :=
    ⟨"A.java", 2, rfl, rfl, by decide, .inr (.inr ⟨onePart, rfl, by decide⟩)⟩
  obtain ⟨detail, resolved⟩ := claimed paged {} {} (broken 2) consistent (by decide) nofun
    (exists_detail consistent {} covered)
  obtain ⟨source, line, hsource, hline, -, unknown | ⟨found, hfound, -⟩ | ⟨page, there, misses⟩⟩ :=
    places_of_resolve resolved
  · cases unknown
  · obtain rfl := Option.some.inj hsource
    have unmapped : (paged.lineMaps.getD []).find? "A.java" = none := by decide
    rw [unmapped] at hfound
    cases hfound
  · obtain rfl := Option.some.inj there
    obtain ⟨node, none, -⟩ := misses
    cases none

end Metadata
end PageBuild
