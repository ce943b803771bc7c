import Mathlib.Data.List.Basic
import PageBuild.Compilation
import PageBuild.Proofs.Messages.Defaults
import PageBuild.Proofs.Session.Run
import PageBuild.Resolution.Account

/-! Conservation of errors. Every error among diagnostics is accounted for by one finding of its
own, which is a detail or a warning in the log; both come in the order of the diagnostics, and
nothing else is found. Only a line without a numeral keeps an error from being accounted for. -/
namespace PageBuild

namespace Metadata

variable {data : Metadata} {d : Diagnostic}

/-- A diagnostic without a line of a file is a fault of resolution. -/
theorem incomplete_default (d : Diagnostic) :
    ∃ f, incomplete {} d = .error (.fault f) ∧ f.kind = .unresolved := by
  unfold incomplete
  rw [Messages.say_diagnosticIncomplete]
  exact ⟨_, rfl, rfl⟩

theorem unmapped_default (source : String) {line : Int}
    (h : Decimal.length line.natAbs ≤ Text.numeralLimit) :
    ∃ f, unmapped {} source line = .error (.fault f) ∧ f.kind = .unresolved := by
  unfold unmapped
  rw [Messages.say_lineUnmapped source h]
  exact ⟨_, rfl, rfl⟩

theorem resolve_of_not_places (messages : Messages) (unplaced : ¬ data.Places d) {source : String}
    {line : Int} (hsource : d.source = some source) (hline : d.line = some line)
    (positive : 1 ≤ line) : data.resolve messages d = unmapped messages source line := by
  have uncovered : ¬ (data.isEmpty = true ∨ data.Covers source line) := fun covered =>
    unplaced ⟨source, line, hsource, hline, positive, covered⟩
  simp only [Covers, not_or] at uncovered
  obtain ⟨known, unmappedLine, unpaged⟩ := uncovered
  simp only [resolve, hsource, hline, if_neg (Int.not_lt.mpr positive), resolveAt, if_neg known,
    byLineMap_eq_none_iff.mpr unmappedLine, byPage_eq_none_iff.mpr unpaged]

/-- An error that is not placed and can be told is a fault of resolution. -/
theorem exists_fault_of_canTell (unplaced : ¬ data.Places d) (canTell : data.CanTell d) :
    ∃ f, data.resolve {} d = .error (.fault f) ∧ f.kind = .unresolved := by
  have short := canTell.resolve_left unplaced
  cases hsource : d.source with
  | none =>
    rw [resolve, hsource]
    exact incomplete_default d
  | some source =>
    cases hline : d.line with
    | none =>
      rw [resolve, hsource, hline]
      exact incomplete_default d
    | some line =>
      by_cases positive : 1 ≤ line
      · rw [resolve_of_not_places {} unplaced hsource hline positive]
        exact unmapped_default source (short source line hsource hline positive)
      · simp only [resolve, hsource, hline, if_pos (Int.not_le.mp positive)]
        exact incomplete_default d

/-- A line without a numeral keeps an error from being skipped. -/
theorem finding_of_not_canTell (untold : ¬ data.CanTell d) :
    data.finding {} d = .error (.value (.template .longNumeral)) := by
  obtain ⟨unplaced, long⟩ := not_or.mp untold
  push Not at long
  obtain ⟨source, line, hsource, hline, positive, long⟩ := long
  have lost : data.resolve {} d = .error (.value (.template .longNumeral)) := by
    rw [resolve_of_not_places {} unplaced hsource hline positive, unmapped,
      Messages.say_lineUnmapped_of_long source long]
    rfl
  rw [finding, lost]

theorem exists_detail (consistent : data.IsConsistent) (messages : Messages)
    (places : data.Places d) : ∃ detail, data.resolve messages d = .ok detail := by
  rcases resolve_of_places messages places with resolved | ⟨-, source, line, e, failed⟩
  · exact resolved
  · obtain ⟨found?, answered⟩ := consistent.byLineMap source line
    simp [failed] at answered

/-- Every error has a finding that accounts for it. -/
theorem exists_finding (consistent : data.IsConsistent) (canTell : data.CanTell d) :
    ∃ found, data.finding {} d = .ok found ∧ found.Accounts data d := by
  by_cases places : data.Places d
  · obtain ⟨detail, resolved⟩ := exists_detail consistent {} places
    exact ⟨.detail detail, by simp [finding, resolved], accounts_of_resolve resolved⟩
  · obtain ⟨f, failed, kind⟩ := exists_fault_of_canTell places canTell
    exact ⟨.skipped f.message, by simp [finding, failed, kind], .skipped places⟩

/-- One finding for each error, by that error alone. -/
theorem exists_account (consistent : data.IsConsistent) :
    ∃ account : Diagnostic → Finding, ∀ d, data.CanTell d →
      data.finding {} d = .ok (account d) ∧ (account d).Accounts data d := by
  have total : ∀ d, ∃ found, data.CanTell d →
      data.finding {} d = .ok found ∧ found.Accounts data d := by
    intro d
    by_cases h : data.CanTell d
    · obtain ⟨found, answer⟩ := exists_finding consistent h
      exact ⟨found, fun _ => answer⟩
    · exact ⟨.skipped "", fun known => absurd known h⟩
  exact Classical.axiomOfChoice total

/-- The findings are those of the errors, one by one. -/
theorem findings_eq_map {messages : Messages} {diagnostics : List Diagnostic}
    {account : Diagnostic → Finding}
    (h : ∀ d ∈ diagnostics, d.isError = true → data.finding messages d = .ok (account d)) :
    data.findings messages diagnostics = ((diagnostics.filter (·.isError)).map account, none) := by
  induction diagnostics with
  | nil => rfl
  | cons d rest ih =>
    rw [List.forall_mem_cons] at h
    obtain ⟨first, others⟩ := h
    rw [findings, ih others]
    split
    · next isError => simp [first isError, isError]
    · next notError => simp [notError]

/-- The findings end where an error cannot be told. -/
theorem exists_findings_of_not_canTell (consistent : data.IsConsistent)
    {diagnostics : List Diagnostic}
    (untold : ∃ d ∈ diagnostics, d.isError = true ∧ ¬ data.CanTell d) :
    ∃ found, data.findings {} diagnostics = (found, some (.value (.template .longNumeral))) := by
  induction diagnostics with
  | nil => simp at untold
  | cons d rest ih =>
    unfold findings
    by_cases canTell : d.isError = true → data.CanTell d
    · have later : ∃ d ∈ rest, d.isError = true ∧ ¬ data.CanTell d := by
        obtain ⟨d', member, isError, silent⟩ := untold
        refine ⟨d', (List.mem_cons.mp member).resolve_left ?_, isError, silent⟩
        rintro rfl
        exact silent (canTell isError)
      obtain ⟨found, ends⟩ := ih later
      rw [ends]
      split
      · next isError =>
        obtain ⟨first, finding, -⟩ := exists_finding consistent (canTell isError)
        exact ⟨first :: found, by rw [finding]⟩
      · exact ⟨found, rfl⟩
    · obtain ⟨isError, silent⟩ := Classical.not_imp.mp canTell
      rw [if_pos isError, finding_of_not_canTell silent]
      exact ⟨[], rfl⟩

def details (data : Metadata) (diagnostics : List Diagnostic) : List ErrorDetail :=
  (data.findings {} diagnostics).1.filterMap (·.detail?)

end Metadata

namespace Compilation

open Session

/-- The findings that are skipped are logged in their order. -/
theorem warn_eq (found : List Finding) (s : Session) :
    (found.forM fun f =>
      match f.warning? with
      | some text => log .warning text
      | none => pure ()) s = .ok ()
      { s with journal := s.journal ++ (found.filterMap (·.warning?)).map (.logged .warning) } := by
  have logged : (found.filterMap (·.warning?)).map (Event.logged .warning) =
      found.flatMap fun f => (f.warning?.map (.logged .warning)).toList := by
    rw [List.map_filterMap, List.filterMap_eq_flatMap_toList]
  rw [logged]
  refine forM_eq_journal (fun f s => ?_) found s
  cases f with
  | detail d => simp [Finding.warning?, pure, EStateM.pure]
  | skipped reason => rfl

theorem resolve_eq_of_findings {messages : Messages} {data : Metadata}
    {diagnostics : List Diagnostic} {found : List Finding}
    (h : data.findings messages diagnostics = (found, none)) (s : Session) :
    resolve messages data diagnostics s = .ok (found.filterMap (·.detail?))
      { s with journal := s.journal ++ (found.filterMap (·.warning?)).map (.logged .warning) } := by
  simp only [resolve, h]
  exact bind_eq_ok_iff.mpr ⟨(), _, warn_eq found s, rfl⟩

/-- A resolution fails with the first message that cannot be said. -/
theorem resolve_eq_of_failure {messages : Messages} {data : Metadata}
    {diagnostics : List Diagnostic} {found : List Finding} {e : Failure}
    (h : data.findings messages diagnostics = (found, some e)) (s : Session) :
    resolve messages data diagnostics s = .error e
      { s with journal := s.journal ++ (found.filterMap (·.warning?)).map (.logged .warning) } := by
  simp only [resolve, h]
  exact bind_of_ok (warn_eq found s)

/-- A resolution adds nothing but warnings to the journal. -/
theorem resolve_eq_details {data : Metadata} {diagnostics : List Diagnostic}
    (consistent : data.IsConsistent)
    (h : ∀ d ∈ diagnostics, d.isError = true → data.CanTell d) (s : Session) :
    ∃ warned : List String, resolve {} data diagnostics s = .ok (data.details diagnostics)
      { s with journal := s.journal ++ warned.map (.logged .warning) } := by
  obtain ⟨account, accounts⟩ := Metadata.exists_account consistent
  have findings := Metadata.findings_eq_map fun d member isError =>
    (accounts d (h d member isError)).1
  have resolved := resolve_eq_of_findings findings s
  rw [Metadata.details, findings]
  exact ⟨_, resolved⟩

/-- There is one finding for each error, by that error alone; what is found becomes the details and
the warnings, both in the order of the errors. It fails exactly if some error is not placed and its
line has too many digits for the message about that. -/
theorem resolve_eq_accounts {data : Metadata} (consistent : data.IsConsistent) :
    ∃ account : Diagnostic → Finding,
      (∀ d, data.CanTell d → (account d).Accounts data d) ∧
      (∀ (diagnostics : List Diagnostic) (s : Session),
        (∀ d ∈ diagnostics, d.isError = true → data.CanTell d) →
        let found := (diagnostics.filter (·.isError)).map account
        resolve {} data diagnostics s = .ok (found.filterMap (·.detail?))
          { s with journal := s.journal ++ (found.filterMap (·.warning?)).map (.logged .warning) }) ∧
      (∀ (before after : List Diagnostic) (s : Session),
        (∀ d ∈ before ++ after, d.isError = true → data.CanTell d) →
        ∃ first second s₁ s₂, resolve {} data before s = .ok first s₁ ∧
          resolve {} data after s₁ = .ok second s₂ ∧
          resolve {} data (before ++ after) s = .ok (first ++ second) s₂) ∧
      ∀ (diagnostics : List Diagnostic) (s : Session),
        (∃ d ∈ diagnostics, d.isError = true ∧ ¬ data.CanTell d) →
        ∃ s', resolve {} data diagnostics s = .error (.value (.template .longNumeral)) s' := by
  obtain ⟨account, accounts⟩ := Metadata.exists_account consistent
  have run : ∀ (diagnostics : List Diagnostic) (s : Session),
      (∀ d ∈ diagnostics, d.isError = true → data.CanTell d) →
      let found := (diagnostics.filter (·.isError)).map account
      resolve {} data diagnostics s = .ok (found.filterMap (·.detail?))
        { s with journal := s.journal ++ (found.filterMap (·.warning?)).map (.logged .warning) } :=
    fun diagnostics s h => resolve_eq_of_findings
      (Metadata.findings_eq_map fun d member isError => (accounts d (h d member isError)).1) s
  refine ⟨account, fun d h => (accounts d h).2, run, fun before after s h => ?_,
    fun diagnostics s untold => ?_⟩
  · rw [List.forall_mem_append] at h
    refine ⟨_, _, _, _, run before s h.1, run after _ h.2, ?_⟩
    rw [run (before ++ after) s (List.forall_mem_append.mpr h)]
    simp
  · obtain ⟨found, ends⟩ := Metadata.exists_findings_of_not_canTell consistent untold
    exact ⟨_, resolve_eq_of_failure ends s⟩

/-- Metadata of one section: lines 3 and 4 of a generated file come from line 7 of a template. -/
def oneSection : Metadata where
  lineMaps := some [("A.java", {
    generatedFile := "A.java", className := "A", files := [(0, "a.jsp")]
    entries := [{ inputStart := 7, outputStart := 3, increment := 2
                  one_le_inputStart := by decide, one_le_outputStart := by decide
                  one_le_inputCount := Nat.one_pos }] })]

def inside : Diagnostic :=
  { kind := .error, message := "m", source := some "A.java", line := some 4 }

def outside : Diagnostic :=
  { kind := .error, message := "n", source := some "A.java", line := some 9 }

def unlocated : Diagnostic := { kind := .warning, message := "w" }

theorem places_inside : oneSection.Places inside :=
  ⟨"A.java", 4, rfl, rfl, by decide, .inr (.inl ⟨_, rfl, by decide⟩)⟩

theorem not_places_outside : ¬ oneSection.Places outside := by
  rintro ⟨source, line, hsource, hline, -, known | covered⟩
  · cases known
  · obtain rfl := Option.some.inj hsource
    obtain rfl := Option.some.inj hline
    rcases covered with ⟨found, hfound, covers⟩ | ⟨page, unpaged, -⟩
    · obtain rfl := Option.some.inj hfound
      exact absurd covers (by decide)
    · cases unpaged

theorem resolve_eq_accounts_oneSection :
    oneSection.IsConsistent ∧
    (∀ d ∈ [outside, unlocated, inside], d.isError = true → oneSection.CanTell d) ∧
    ∃ (reason : String) (detail : ErrorDetail),
      resolve {} oneSection [outside, unlocated, inside] { files := ⟨[], []⟩ } = .ok [detail]
        { files := ⟨[], []⟩
          journal := [.logged .warning s!"Skipping compiler error: {reason}"] } ∧
      detail.message = "m" ∧ detail.generatedLine = some 4 ∧ 1 ≤ detail.line := by
  have consistent : oneSection.IsConsistent := by decide
  have readable : ∀ d ∈ [outside, unlocated, inside], d.IsReadable := by
    simp [Diagnostic.IsReadable, outside, unlocated, inside]
    decide
  have known : ∀ d ∈ [outside, unlocated, inside], d.isError = true → oneSection.CanTell d :=
    fun d member _ => Metadata.canTell_of_isReadable (readable d member)
  obtain ⟨account, accounts, run, -⟩ := resolve_eq_accounts consistent
  refine ⟨consistent, known, ?_⟩
  rw [run _ _ known]
  have first := accounts outside (Metadata.canTell_of_isReadable (readable _ (by simp)))
  have second := accounts inside (.inl places_inside)
  have errors : [outside, unlocated, inside].filter (·.isError) = [outside, inside] := by decide
  cases hfirst : account outside with
  | detail d =>
    rw [hfirst] at first
    cases first with
    | placed places => exact absurd places not_places_outside
  | skipped reason =>
    cases hsecond : account inside with
    | skipped reason =>
      rw [hsecond] at second
      cases second with
      | skipped unplaced => exact absurd places_inside unplaced
    | detail d =>
      rw [hsecond] at second
      cases second with
      | placed places message file generated names positive resolved =>
        refine ⟨reason, d, ?_, message, generated, resolved⟩
        simp only [errors, List.map, hfirst, hsecond]
        rfl

def blank : Metadata where
  page := some {}

def distant : Diagnostic :=
  { kind := .error, message := "m", source := some "A.java", line := some Decimal.overlong }

theorem not_canTell_distant : ¬ blank.CanTell distant := by
  rintro (⟨source, line, -, -, -, known | ⟨found, mapped, -⟩ | ⟨page, ⟨⟩, node, member, -⟩⟩ | short)
  · cases known
  · cases mapped
  · cases member
  · refine Decimal.not_isShort_overlong (short "A.java" _ rfl rfl ?_)
    exact Int.ofNat_le.mpr (Decimal.one_le_beyond _)

/-- An error that is not placed may keep all others from being resolved. -/
theorem not_exists_resolve : ¬ ∀ (diagnostics : List Diagnostic) (data : Metadata) (s : Session),
    data.IsConsistent → ∃ details s', resolve {} data diagnostics s = .ok details s' := by
  intro claimed
  have consistent : blank.IsConsistent := by decide
  have untold : ∃ d ∈ [distant], d.isError = true ∧ ¬ blank.CanTell d :=
    ⟨distant, List.mem_singleton_self _, rfl, not_canTell_distant⟩
  obtain ⟨found, ends⟩ := Metadata.exists_findings_of_not_canTell consistent untold
  obtain ⟨details, s', resolved⟩ := claimed [distant] blank { files := ⟨[], []⟩ } consistent
  cases (resolve_eq_of_failure ends _).symm.trans resolved

end Compilation
end PageBuild
