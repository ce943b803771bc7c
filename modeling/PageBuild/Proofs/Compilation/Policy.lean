import PageBuild.Proofs.Compilation.Protocol

/-! The policy of a context: whether the source is kept, and whether symbols are installed. The
compiler is started, and its errors are reported, as if there were no policy. Only a refusal to
delete the source that cannot be put into words comes in between. -/
namespace PageBuild

open Session

namespace Context

/-- The context without its policy: all that a compiler gets to see. -/
def compiled (c : Context) : Context :=
  { c with keepGenerated := true, prototype := false, smapSuppressed := false }

end Context

namespace Session

variable {β : Type}

/-- Not even the steps of a build show in the view. -/
structure Still (view : Session → β) : Prop extends Steady view where
  entered : ∀ s stage, view (s.entered stage) = view s

theorem still_launches : Still launches := { steady_launches with entered := launches_entered }

theorem still_batches : Still batches where
  files _ _ := rfl
  privates _ _ := rfl
  logged _ _ _ := rfl
  entered _ _ := rfl

end Session

namespace Dispatcher

/-- Every batch that is passed to the dispatcher is noted once, and no other. -/
def Notes (d : Dispatcher) : Prop :=
  ∀ errors s, (after (d errors) s).batches = s.batches ++ [errors]

def noting (d : Dispatcher) : Dispatcher := fun errors => do
  modify fun s => { s with batches := s.batches ++ [errors] }
  d errors

theorem notes_noting {d : Dispatcher} (h : ∀ errors, Keeps Session.batches (d errors)) :
    d.noting.Notes :=
  fun errors s => h errors { s with batches := s.batches ++ [errors] }

theorem notes_collecting : collecting.Notes := by
  apply notes_noting (d := fun errors => errors.forM fun d => do
    let text ← Session.ofExcept (d.text.mapError .ofNumber)
    Session.log .error s!"Compilation error: {text}")
  intro errors
  apply keeps_forM
  intro d
  exact (still_batches.keeps_ofExcept _).bind fun _ => still_batches.keeps_log _ _

end Dispatcher

/-- Resolving errors only logs those that are skipped. -/
theorem Compilation.keeps_resolve_of_logged {β : Type} {view : Session → β}
    (logged : ∀ s level text,
      view { s with journal := s.journal ++ [.logged level text] } = view s)
    (messages : Messages) (data : Metadata) (diagnostics : List Diagnostic) :
    Keeps view (resolve messages data diagnostics) := by
  unfold resolve
  rcases data.findings messages diagnostics with ⟨found, failure?⟩
  refine Keeps.bind ?_ fun _ => ?_
  · apply keeps_forM
    intro finding
    cases finding.warning? with
    | some text => exact keeps_modify fun s => logged s _ _
    | none => exact keeps_pure _
  · cases failure? with
    | some e => exact keeps_throw _
    | none => exact keeps_pure _

namespace Session.Still

open Compilation

variable {β : Type} {view : Session → β} (still : Still view) {t : Compilation} {c : Context}
  {data : Metadata}
include still

theorem keeps_enter (stage : Stage) : Keeps view (enter stage) :=
  keeps_modify fun s => still.entered s stage

theorem keeps_cleanup (t : Compilation) (c : Context) : Keeps view (t.cleanup c) := by
  unfold cleanup
  split
  · exact keeps_pure _
  · refine (still.keeps_enter _).bind fun _ => (still.keeps_attempt _).bind fun answer => ?_
    cases answer with
    | ok _ => exact keeps_pure _
    | error e =>
      refine (still.keeps_ofExcept _).bind fun f => ?_
      exact (still.keeps_log _ _).bind fun _ => keeps_pure _

theorem keeps_resolve (messages : Messages) (data : Metadata) (diagnostics : List Diagnostic) :
    Keeps view (resolve messages data diagnostics) :=
  keeps_resolve_of_logged still.logged messages data diagnostics

theorem keeps_install
    (installers : ∀ installer ∈ t.installer, ∀ maps, Keeps view (installer maps)) :
    Keeps view (t.install c data) := by
  unfold install
  split
  · exact keeps_pure _
  · cases given : t.installer with
    | none => exact (still.keeps_log _ _).bind fun _ => keeps_pure _
    | some installer =>
      refine (still.keeps_enter _).bind fun _ => ?_
      exact (installers installer given _).bind fun _ => keeps_pure _

theorem keeps_finish (installers : ∀ installer ∈ t.installer, ∀ maps, Keeps view (installer maps))
    (r : List String × Option Fault × List ErrorDetail) : Keeps view (t.finish c data r) := by
  refine (still.keeps_log _ _).bind fun _ => ?_
  exact (still.keeps_install installers).bind fun _ => keeps_pure _

end Session.Still

namespace Compilation

variable {t : Compilation} {c c₁ c₂ : Context} {data : Metadata} {s s₁ s₂ : Session}
  {installer : Option SymbolInstaller}

def conclude (t : Compilation) (c : Context) (data : Metadata)
    (found : List String × List Diagnostic) : Action Outcome := do
  let refused ← t.cleanup c
  let errors ← resolve t.messages data found.2
  t.report errors
  t.finish c data (found.1, refused, errors)

theorem run_eq_conclude (t : Compilation) (c : Context) (data : Metadata) :
    t.run c data = t.diagnose c >>= t.conclude c data := by
  rw [run_eq]
  unfold reported conclude
  simp only [bind_assoc, pure_bind]

def batch (errors : List ErrorDetail) : List (List ErrorDetail) :=
  if errors.isEmpty then [] else [errors]

/-- The batches that come of diagnostics: one at most, and none if a message fails. -/
def passed (messages : Messages) (data : Metadata) (diagnostics : List Diagnostic) :
    List (List ErrorDetail) :=
  match data.findings messages diagnostics with
  | (found, none) => batch (found.filterMap (·.detail?))
  | (_, some _) => []

theorem batches_report (notes : t.dispatcher.Notes) (errors : List ErrorDetail) (s : Session) :
    (after (t.report errors) s).batches = s.batches ++ batch errors := by
  cases errors with
  | nil => exact (List.append_nil _).symm
  | cons d rest =>
    rw [after_congr_at (report_of_ne_nil (List.cons_ne_nil d rest) s)]
    exact notes _ _

/-- The dispatcher is passed what comes of the diagnostics, whatever the policy. -/
theorem batches_conclude (data : Metadata) (sweeps : t.Sweeps c) (notes : t.dispatcher.Notes)
    (installers : ∀ installer ∈ t.installer, ∀ maps, Keeps batches (installer maps))
    {found : List String × List Diagnostic} {s₀ : Session}
    (hdiagnose : t.diagnose c s₀ = .ok found s) :
    (after (t.conclude c data found) s).batches = s.batches ++ passed t.messages data found.2 := by
  obtain ⟨refused, s₁, cleaned, -⟩ := exists_cleanup sweeps hdiagnose s
  have kept := (still_batches.keeps_cleanup t c).of_ok cleaned
  have start : t.conclude c data found s = _ := bind_of_ok cleaned
  rw [after_congr_at start, ← kept]
  unfold passed
  rcases hfindings : data.findings t.messages found.2 with ⟨findings, _ | e⟩
  · have resolved := resolve_eq_of_findings hfindings s₁
    have unreported := (still_batches.keeps_resolve _ _ _).of_ok resolved
    rw [after_congr_at (bind_of_ok resolved), ← unreported, ← batches_report notes]
    exact Keeps.after_bind (fun _ => still_batches.keeps_finish installers _) _
  · have failed := resolve_eq_of_failure hfindings s₁
    rw [after_of_error (bind_of_error failed), List.append_nil]

/-- Nothing that follows a diagnosis starts a process. -/
theorem launches_run (data : Metadata)
    (dispatcher : ∀ errors, Keeps launches (t.dispatcher errors))
    (installers : ∀ installer ∈ t.installer, ∀ maps, Keeps launches (installer maps))
    (s : Session) : (after (t.run c data) s).launches = (after (t.diagnose c) s).launches := by
  rw [run_eq_conclude]
  apply Keeps.after_bind
  intro found
  refine (still_launches.keeps_cleanup t c).bind fun refused => ?_
  refine (still_launches.keeps_resolve _ _ _).bind fun errors => ?_
  refine Keeps.bind ?_ fun _ => still_launches.keeps_finish installers _
  by_cases empty : errors = []
  · subst empty
    exact keeps_pure ()
  · intro s
    rw [after_congr_at (report_of_ne_nil empty s)]
    exact (dispatcher errors _).trans (launches_entered s .report)

/-- The options and the errors of an outcome are those of the diagnosis. -/
theorem findings_of_run {o : Outcome} (run : t.run c data s = .ok o s₁) :
    ∃ diagnostics found s₂, t.diagnose c s = .ok (o.options, diagnostics) s₂ ∧
      data.findings t.messages diagnostics = (found, none) ∧
      o.errors = found.filterMap (·.detail?) := by
  rw [run_eq_conclude] at run
  obtain ⟨⟨options, diagnostics⟩, s₂, diagnosed, run⟩ := bind_eq_ok_iff.mp run
  obtain ⟨refused, s₃, -, run⟩ := bind_eq_ok_iff.mp run
  obtain ⟨errors, s₄, resolved, run⟩ := bind_eq_ok_iff.mp run
  obtain ⟨_, s₅, -, run⟩ := bind_eq_ok_iff.mp run
  obtain ⟨_, s₆, -, run⟩ := bind_eq_ok_iff.mp run
  obtain ⟨installed, s₇, -, hpure⟩ := bind_eq_ok_iff.mp run
  obtain ⟨rfl, -⟩ := pure_eq_ok_iff.mp hpure
  obtain ⟨found, hfindings, rfl⟩ := findings_of_resolve resolved
  exact ⟨diagnostics, found, s₂, diagnosed, hfindings, rfl⟩

/-- A diagnosis does not depend on the policy. -/
theorem diagnose_compiled (t : Compilation) (c : Context) : t.diagnose c.compiled = t.diagnose c :=
  rfl

theorem diagnose_congr (same : c₁.compiled = c₂.compiled) : t.diagnose c₁ = t.diagnose c₂ := by
  rw [← diagnose_compiled t c₁, same, diagnose_compiled]

/-- Two runs that a compiler, a dispatcher and a reader of outcomes cannot tell apart. -/
structure Indistinct (first second : Action Outcome) (s : Session) : Prop where
  /-- The processes see the same files, those of their arguments among them. -/
  launches : (after first s).launches = (after second s).launches
  batches : (after first s).batches = (after second s).batches
  returned : ∀ o₁ s₁ o₂ s₂, first s = .ok o₁ s₁ → second s = .ok o₂ s₂ →
    o₁.options = o₂.options ∧ o₁.errors = o₂.errors

/-- The policy of a context, and whoever installs symbols, influences neither what is compiled nor
what is reported. -/
theorem indistinct_of_compiled_eq (same : c₁.compiled = c₂.compiled) (sweeps₁ : t.Sweeps c₁)
    (sweeps₂ : t.Sweeps c₂) (notes : t.dispatcher.Notes)
    (dispatcher : ∀ errors, Keeps launches (t.dispatcher errors))
    (installers : ∀ given, given ∈ t.installer ∨ given ∈ installer → ∀ maps,
      Keeps launches (given maps) ∧ Keeps batches (given maps)) (data : Metadata) (s : Session) :
    (∀ e s', t.diagnose c₁ s = .error e s' →
      t.run c₁ data s = .error e s' ∧ { t with installer }.run c₂ data s = .error e s') ∧
    Indistinct (t.run c₁ data) ({ t with installer }.run c₂ data) s := by
  have diagnosed : { t with installer }.diagnose c₂ = t.diagnose c₁ := (diagnose_congr same).symm
  have failed : ∀ e s', t.diagnose c₁ s = .error e s' →
      t.run c₁ data s = .error e s' ∧ { t with installer }.run c₂ data s = .error e s' := by
    intro e s' failed
    rw [run_eq_conclude, run_eq_conclude, diagnosed]
    exact ⟨bind_of_error failed, bind_of_error failed⟩
  refine ⟨failed, ?_, ?_, ?_⟩
  · have first := launches_run (c := c₁) data dispatcher
      (fun given member maps => (installers given (.inl member) maps).1) s
    have second := launches_run (t := { t with installer }) (c := c₂) data dispatcher
      (fun given member maps => (installers given (.inr member) maps).1) s
    rw [first, second, diagnosed]
  · cases run : t.diagnose c₁ s with
    | error e s₁ =>
      obtain ⟨first, second⟩ := failed e s₁ run
      rw [after_of_error first, after_of_error second]
    | ok found s₁ =>
      have first := batches_conclude data sweeps₁ notes
        (fun given member maps => (installers given (.inl member) maps).2) run
      have second := batches_conclude (t := { t with installer }) data
        ⟨sweeps₂.noNul, sweeps₂.told⟩ notes
        (fun given member maps => (installers given (.inr member) maps).2)
        ((congrFun diagnosed s).trans run)
      rw [run_eq_conclude, run_eq_conclude, diagnosed, after_congr_at (bind_of_ok run),
        after_congr_at (bind_of_ok run), first, second]
  · intro o₁ s₁ o₂ s₂ first second
    obtain ⟨diagnostics, found, _, diagnosed₁, findings₁, errors₁⟩ := findings_of_run first
    obtain ⟨diagnostics', found', _, diagnosed₂, findings₂, errors₂⟩ := findings_of_run second
    rw [diagnosed, diagnosed₁] at diagnosed₂
    obtain ⟨pair, -⟩ := EStateM.Result.ok.inj diagnosed₂
    obtain ⟨options, rfl⟩ := Prod.mk.inj pair
    obtain ⟨rfl, -⟩ := Prod.mk.inj (findings₁.symm.trans findings₂)
    exact ⟨options, errors₁.trans errors₂.symm⟩

theorem indistinct_of_compiled_eq_swept :
    rootedContext.compiled = sweptContext.compiled ∧ rooted.Sweeps rootedContext ∧
    rooted.Sweeps sweptContext ∧ rooted.dispatcher.Notes ∧
    (∀ errors, Keeps launches (rooted.dispatcher errors)) ∧
    (∀ given, given ∈ rooted.installer ∨ given ∈ sweeping.installer → ∀ maps,
      Keeps launches (given maps) ∧ Keeps batches (given maps)) ∧
    (after (rooted.run rootedContext {}) rootedSession).batches.isEmpty = false ∧
    Indistinct (rooted.run rootedContext {})
      ({ rooted with installer := sweeping.installer }.run sweptContext {}) rootedSession := by
  have same : rootedContext.compiled = sweptContext.compiled := rfl
  have kept : rooted.Sweeps rootedContext := ⟨nofun, nofun⟩
  have swept : rooted.Sweeps sweptContext := by
    refine ⟨fun _ => by decide, fun _ => ?_⟩
    exact ⟨_, Messages.say_sourceDeleteFailed _⟩
  have dispatcher := Dispatcher.keeps_collecting steady_launches fun _ _ => rfl
  have installers : ∀ given, given ∈ rooted.installer ∨ given ∈ sweeping.installer → ∀ maps,
      Keeps launches (given maps) ∧ Keeps batches (given maps) := by
    rintro given (none | some) maps
    · cases none
    · obtain rfl := Option.some.inj some
      exact ⟨SymbolFiles.keeps_install steady_launches _ _ maps,
        SymbolFiles.keeps_install still_batches.toSteady _ _ maps⟩
  have reported : (after (rooted.run rootedContext {}) rootedSession).batches.isEmpty = false := by
    decide +kernel
  obtain ⟨-, indistinct⟩ := indistinct_of_compiled_eq same kept swept Dispatcher.notes_collecting
    dispatcher installers {} rootedSession
  exact ⟨same, kept, swept, Dispatcher.notes_collecting, dispatcher, installers, reported,
    indistinct⟩

def speechless : Compilation :=
  { rooted with messages.overrides := [(MessageKey.sourceDeleteFailed.name, .str "\x7b")] }

/-- A source that cannot be deleted may keep a dispatcher from its errors. -/
theorem not_indistinct_of_compiled_eq : ¬ ∀ (t : Compilation) (c₁ c₂ : Context) (data : Metadata)
    (s : Session), c₁.compiled = c₂.compiled → Char.ofNat 0 ∉ c₁.sourceFile.text.toList →
    t.dispatcher.Notes → (∀ errors, Keeps launches (t.dispatcher errors)) → t.installer = none →
    (∃ e s', t.diagnose c₁ s = .error e s' ∧ t.diagnose c₂ s = .error e s') ∨
      (after (t.run c₁ data) s).batches = (after (t.run c₂ data) s).batches := by
  intro claimed
  have same : rootedContext.compiled = sweptContext.compiled := rfl
  have noNul : Char.ofNat 0 ∉ rootedContext.sourceFile.text.toList := by decide
  have dispatcher := Dispatcher.keeps_collecting steady_launches fun _ _ => rfl
  have reported :
      (after (speechless.run rootedContext {}) rootedSession).batches.isEmpty = false := by
    decide +kernel
  have unreported :
      (after (speechless.run sweptContext {}) rootedSession).batches.isEmpty = true := by
    decide +kernel
  rcases claimed speechless rootedContext sweptContext {} rootedSession same noNul
    Dispatcher.notes_collecting dispatcher rfl with ⟨e, s', failed, -⟩ | equal
  · have returned : shape (speechless.diagnose rootedContext rootedSession) =
        [(true, true, some 2)] := by
      decide +kernel
    rw [failed] at returned
    cases returned
  · rw [equal, unreported] at reported
    cases reported

end Compilation
end PageBuild
