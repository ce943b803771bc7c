import PageBuild.Compilation
import PageBuild.Proofs.Compilation.Diagnosis
import PageBuild.Proofs.Handle.Running
import PageBuild.Proofs.Resolution.Conservation
import PageBuild.Proofs.Transcript.Numerals

/-! The phases of a compilation. In a diagnosis the compiler is run, and the handle is closed
however that ends; what follows deletes the source, reports the errors and installs symbols. -/
namespace PageBuild

open Session

namespace Handle

def located (h : Handle) (c : Context) : Handle :=
  { h with outputs := [c.scratchDir], classPath := ClassPath.entries c.classPath }

end Handle

namespace Compilation

variable {t : Compilation} {c : Context} {h : Handle} {s s₁ s₂ : Session}

def preparation : List Stage := [.options, .classOutput, .classPath, .compile]

theorem adds_enter (stage : Stage) : Adds stages [stage] (enter stage) := by
  constructor
  · intro s a s' run
    cases run
    exact stages_entered s stage
  · intro s e s' run
    cases run

theorem keeps_launches_enter (stage : Stage) : Keeps launches (enter stage) :=
  fun s => launches_entered s stage

theorem adds_diagnoseWith (t : Compilation) (c : Context) (h : Handle) :
    Adds stages preparation (t.diagnoseWith c h) := by
  refine (adds_enter .options).bind fun _ => ?_
  refine (steady_stages.keeps_change _).adds.bind fun _ => ?_
  refine (adds_enter .classOutput).bind fun _ => ?_
  refine (steady_stages.keeps_setLocation h _ _).adds.bind fun h₁ => ?_
  refine (adds_enter .classPath).bind fun _ => ?_
  refine (steady_stages.keeps_setLocation h₁ _ _).adds.bind fun h₂ => ?_
  refine (adds_enter .compile).bind fun _ => ?_
  exact ((h₂.keeps_stages_compile _ _).bind fun _ => keeps_pure _).adds

/-- The compiler is run on the one source, with the options and the locations of the context. -/
theorem startsOne_diagnoseWith (t : Compilation) (c : Context) (h : Handle) (s : Session) :
    StartsOne (·.Passes h.toCaller
      ((h.located c).arguments (t.backend.dialect.options c) [c.sourceFile.text]))
      (t.diagnoseWith c h) s := by
  refine StartsOne.after_keeps (keeps_launches_enter _) fun _ s₁ _ => ?_
  refine StartsOne.after_keeps (steady_launches.keeps_change _) fun _ s₂ _ => ?_
  refine StartsOne.after_keeps (keeps_launches_enter _) fun _ s₃ _ => ?_
  refine StartsOne.after_keeps (steady_launches.keeps_setLocation h _ _) fun h₁ s₄ output => ?_
  refine StartsOne.after_keeps (keeps_launches_enter _) fun _ s₅ _ => ?_
  refine StartsOne.after_keeps (steady_launches.keeps_setLocation h₁ _ _) fun h₂ s₆ path => ?_
  refine StartsOne.after_keeps (keeps_launches_enter _) fun _ s₇ _ => ?_
  obtain rfl := Handle.eq_of_setLocation output
  obtain rfl := Handle.eq_of_setLocation path
  exact StartsOne.before_keeps (Handle.startsOne_compile (h.located c) _ _ s₇) fun _ => keeps_pure _

theorem diagnose_of_acquire_error {e : Failure}
    (hacquire : t.backend.acquire c.encoding (s.entered .acquire) = .error e s₁) :
    t.diagnose c s = .error e s₁ :=
  (bind_of_ok rfl).trans (bind_of_error hacquire)

/-- A handle that was acquired is closed at the end of the diagnosis, however that went. -/
theorem diagnose_of_acquire
    (hacquire : t.backend.acquire c.encoding (s.entered .acquire) = .ok h s₁) :
    h.close ((after (t.diagnoseWith c h) s₁).entered .close) =
      .ok { h with isClosed := true } (after (t.diagnose c) s) ∧
    ∀ found s₃, t.diagnose c s = .ok found s₃ → ∃ s₂, t.diagnoseWith c h s₁ = .ok found s₂ := by
  -- Only a handle whose directory has a path can be closed, and a fresh one has.
  obtain ⟨s₃, closed⟩ := (Backend.isFresh_of_acquire hacquire).exists_close
    ((after (t.diagnoseWith c h) s₁).entered .close)
  have last : (do enter .close; let _ ← h.close : Action Unit) (after (t.diagnoseWith c h) s₁) =
      .ok () s₃ := (bind_of_ok rfl).trans ((bind_of_ok closed).trans rfl)
  have opened : t.diagnose c s = andFinally (t.diagnoseWith c h) _ s₁ :=
    (bind_of_ok rfl).trans (bind_of_ok hacquire)
  cases body : t.diagnoseWith c h s₁ with
  | ok found s₂ =>
    rw [after_of_ok body] at closed last ⊢
    have run : t.diagnose c s = .ok found s₃ := by
      simp only [opened, andFinally, body, last]
    rw [after_of_ok run]
    exact ⟨closed, fun found' s' same => ⟨s₂, by rw [run] at same; cases same; rfl⟩⟩
  | error e s₂ =>
    rw [after_of_error body] at closed last ⊢
    have run : t.diagnose c s = .error e s₃ := by
      simp only [opened, andFinally, body, last]
    rw [after_of_error run]
    exact ⟨closed, fun found' s' same => by rw [run] at same; cases same⟩

def cleanup (t : Compilation) (c : Context) : Action (Option Fault) :=
  if c.keepGenerated then pure none else t.deleteSource c.sourceFile

def deletion (c : Context) : List Stage := if c.keepGenerated then [] else [.delete]

theorem mem_deletion_iff {stage : Stage} :
    stage ∈ deletion c ↔ stage = .delete ∧ c.keepGenerated = false := by
  unfold deletion
  cases c.keepGenerated <;> simp

theorem attempt_of_ne_text {change : FileTree.Change Unit} (s : Session)
    (h : ∀ e files, change s.files ≠ .error (.text e) files) :
    ∃ answer s', attempt change s = .ok answer s' := by
  unfold attempt
  rcases run : change s.files with ⟨a, files⟩ | ⟨e, files⟩
  · exact ⟨_, _, rfl⟩
  · cases e with
    | os e => exact ⟨_, _, rfl⟩
    | text e => exact absurd run (h e files)

/-- If the source is to be deleted, its path can be given to the operating system, and a refusal can
be put into words. -/
structure Sweeps (t : Compilation) (c : Context) : Prop where
  noNul : c.keepGenerated = false → Char.ofNat 0 ∉ c.sourceFile.text.toList
  told : c.keepGenerated = false →
    ∃ message, t.messages.say .sourceDeleteFailed [.path c.sourceFile] = .ok message

theorem sweeps_of_default (hmessages : t.messages = {})
    (noNul : Char.ofNat 0 ∉ c.sourceFile.text.toList) : t.Sweeps c := by
  refine ⟨fun _ => noNul, fun _ => ?_⟩
  rw [hmessages, Messages.say_sourceDeleteFailed]
  exact ⟨_, rfl⟩

/-- The source of a diagnosis is deleted, or a refusal is told. -/
theorem exists_cleanup (sweeps : t.Sweeps c) {found : List String × List Diagnostic}
    {s₀ s₁ : Session} (hdiagnose : t.diagnose c s₀ = .ok found s₁) (s : Session) :
    ∃ refused s', t.cleanup c s = .ok refused s' ∧ s'.stages = s.stages ++ deletion c := by
  unfold cleanup deletion
  cases kept : c.keepGenerated with
  | true => exact ⟨none, s, rfl, (List.append_nil _).symm⟩
  | false =>
    obtain ⟨answer, s', attempted⟩ := attempt_of_ne_text (s.entered .delete)
      fun e _ => FileTree.unlink_ne_text (of?_of_diagnose hdiagnose (sweeps.noNul kept)) e
    have entered : s'.stages = s.stages ++ [.delete] := by
      rw [(steady_stages.keeps_attempt _).of_ok attempted, stages_entered]
    have start : t.deleteSource c.sourceFile s = _ :=
      (bind_of_ok rfl).trans (bind_of_ok attempted)
    cases answer with
    | ok _ => exact ⟨none, s', start, entered⟩
    | error e =>
      obtain ⟨message, said⟩ := sweeps.told kept
      have told : ∃ f, t.notDeleted c.sourceFile e = .ok f := by
        unfold notDeleted
        rw [said]
        exact ⟨_, rfl⟩
      obtain ⟨f, hf⟩ := told
      have built : ofExcept (t.notDeleted c.sourceFile e) s' = .ok f s' :=
        ofExcept_eq_ok_iff.mpr ⟨hf, rfl⟩
      refine ⟨some f, _, start.trans ((bind_of_ok built).trans rfl), ?_⟩
      exact (steady_stages.logged s' .warning f.message).trans entered

theorem exists_resolve {data : Metadata} (hmessages : t.messages = {})
    (consistent : data.IsConsistent) {options : List String} {diagnostics : List Diagnostic}
    (hdiagnose : t.diagnose c s = .ok (options, diagnostics) s₁) (s₂ : Session) :
    ∃ s₃, resolve t.messages data diagnostics s₂ = .ok (data.details diagnostics) s₃ ∧
      s₃.stages = s₂.stages := by
  obtain ⟨h, command, completion, -, -, hjudge⟩ := judge_of_diagnose hdiagnose
  -- Messages can name every line that a transcript gave.
  have readable := Transcript.isReadable_of_parse (Handle.judge_eq_ok_iff.mp hjudge).2.1
  obtain ⟨warned, resolved⟩ := resolve_eq_details consistent
    (fun d member _ => Metadata.canTell_of_isReadable (readable d member)) s₂
  refine ⟨_, hmessages ▸ resolved, ?_⟩
  simp [stages, Event.stage?, List.filterMap_map]

def reporting (errors : List ErrorDetail) : List Stage := if errors.isEmpty then [] else [.report]

theorem mem_reporting_iff {stage : Stage} {errors : List ErrorDetail} :
    stage ∈ reporting errors ↔ stage = .report ∧ errors ≠ [] := by
  cases errors <;> simp [reporting]

theorem report_of_ne_nil {errors : List ErrorDetail} (h : errors ≠ []) (s : Session) :
    t.report errors s = t.dispatcher errors (s.entered .report) := by
  cases errors with
  | nil => contradiction
  | cons d rest => exact bind_of_ok rfl

theorem stages_report (dispatcher : ∀ errors, Keeps stages (t.dispatcher errors))
    (errors : List ErrorDetail) (s : Session) :
    (after (t.report errors) s).stages = s.stages ++ reporting errors := by
  cases errors with
  | nil => exact (List.append_nil _).symm
  | cons d rest =>
    unfold after
    rw [report_of_ne_nil (List.cons_ne_nil d rest)]
    exact (dispatcher _ _).trans (stages_entered s .report)

/-- A compilation up to its report: the options, the refusal to delete the source, the errors. -/
def reported (t : Compilation) (c : Context) (data : Metadata) :
    Action (List String × Option Fault × List ErrorDetail) := do
  let (options, diagnostics) ← t.diagnose c
  let refused ← t.cleanup c
  let errors ← resolve t.messages data diagnostics
  t.report errors
  return (options, refused, errors)

def outcome (c : Context) (r : List String × Option Fault × List ErrorDetail) (installed : Bool) :
    Outcome where
  errors := r.2.2
  options := r.1
  cleanup := r.2.1
  sourceDeleted := !c.keepGenerated && r.2.1.isNone
  symbolsInstalled := installed

def finish (t : Compilation) (c : Context) (data : Metadata)
    (r : List String × Option Fault × List ErrorDetail) : Action Outcome := do
  Session.log .debug s!"Compiled {c.sourceFile.text} in 0ms"
  let installed ← t.install c data
  return outcome c r installed

theorem run_eq (t : Compilation) (c : Context) (data : Metadata) :
    t.run c data = t.reported c data >>= t.finish c data := by
  unfold run reported finish cleanup outcome
  cases c.keepGenerated <;> simp

theorem exists_report_of_diagnose {data : Metadata} {options : List String}
    {diagnostics : List Diagnostic} (hmessages : t.messages = {})
    (noNul : Char.ofNat 0 ∉ c.sourceFile.text.toList) (consistent : data.IsConsistent)
    (hdiagnose : t.diagnose c s = .ok (options, diagnostics) s₁) :
    ∃ refused s₂, s₂.stages = s₁.stages ++ deletion c ∧
      t.reported c data s = (t.report (data.details diagnostics) >>= fun _ =>
        pure (options, refused, data.details diagnostics)) s₂ ∧
      t.run c data s = (t.report (data.details diagnostics) >>= fun _ =>
        t.finish c data (options, refused, data.details diagnostics)) s₂ := by
  obtain ⟨refused, s₂, cleaned, deleted⟩ := exists_cleanup (sweeps_of_default hmessages noNul)
    hdiagnose s₁
  obtain ⟨s₃, resolved, kept⟩ := exists_resolve hmessages consistent hdiagnose s₂
  have start : t.reported c data s = _ :=
    (bind_of_ok hdiagnose).trans ((bind_of_ok cleaned).trans (bind_of_ok resolved))
  refine ⟨refused, s₃, kept.trans deleted, start, ?_⟩
  rw [run_eq, bind_congr_at start, bind_assoc]
  rfl

def MayInstall (t : Compilation) (c : Context) : Prop :=
  c.prototype = false ∧ c.smapSuppressed = false ∧ t.installer.isSome = true

instance (t : Compilation) (c : Context) : Decidable (t.MayInstall c) :=
  inferInstanceAs (Decidable (_ ∧ _ ∧ _))

def installing (t : Compilation) (c : Context) : List Stage :=
  if t.MayInstall c then [.install] else []

theorem mem_installing_iff {stage : Stage} :
    stage ∈ t.installing c ↔ stage = .install ∧ t.MayInstall c := by
  unfold installing
  split <;> simp [*]

theorem install_of_not_mayInstall (data : Metadata) (h : ¬ t.MayInstall c) (s : Session) :
    ∃ s', t.install c data s = .ok false s' ∧ s'.stages = s.stages := by
  unfold install
  split
  · exact ⟨s, rfl, rfl⟩
  · next allowed =>
    simp only [Bool.or_eq_true, not_or, Bool.not_eq_true] at allowed
    cases given : t.installer with
    | none => exact ⟨_, rfl, steady_stages.logged s _ _⟩
    | some installer => exact absurd ⟨allowed.1, allowed.2, by rw [given]; rfl⟩ h

theorem install_of_mayInstall (data : Metadata) (h : t.MayInstall c) (s : Session) :
    ∃ installer, t.installer = some installer ∧
      t.install c data s =
        (installer data.lineMaps >>= fun _ => pure true) (s.entered .install) := by
  obtain ⟨noPrototype, unsuppressed, given⟩ := h
  obtain ⟨installer, hinstaller⟩ := Option.isSome_iff_exists.mp given
  refine ⟨installer, hinstaller, ?_⟩
  unfold install
  simp only [noPrototype, unsuppressed, hinstaller]
  exact bind_of_ok rfl

theorem stages_install {data : Metadata}
    (installers : ∀ installer ∈ t.installer, ∀ maps, Keeps stages (installer maps)) (s : Session) :
    (after (t.install c data) s).stages = s.stages ++ t.installing c := by
  unfold installing
  split
  · next allowed =>
    obtain ⟨installer, given, run⟩ := install_of_mayInstall data allowed s
    have kept := (installers installer given data.lineMaps).bind fun _ => keeps_pure true
    unfold after
    rw [run]
    exact (kept _).trans (stages_entered s .install)
  · next forbidden =>
    obtain ⟨s', run, kept⟩ := install_of_not_mayInstall data forbidden s
    rw [after_of_ok run, kept, List.append_nil]

theorem eq_of_install {data : Metadata} {installed : Bool}
    (run : t.install c data s = .ok installed s₁) : installed = decide (t.MayInstall c) := by
  by_cases allowed : t.MayInstall c
  · obtain ⟨installer, -, enters⟩ := install_of_mayInstall data allowed s
    rw [enters] at run
    obtain ⟨_, _, -, hpure⟩ := bind_eq_ok_iff.mp run
    rw [← (pure_eq_ok_iff.mp hpure).1, decide_eq_true allowed]
  · obtain ⟨s', skips, -⟩ := install_of_not_mayInstall data allowed s
    rw [skips] at run
    cases run
    rw [decide_eq_false allowed]

/-- Nothing but a log entry comes between the report and the installation. -/
theorem exists_install_of_finish (data : Metadata)
    (r : List String × Option Fault × List ErrorDetail) (s : Session) :
    ∃ s₁, s₁.stages = s.stages ∧ t.finish c data r s =
      (t.install c data >>= fun installed => pure (outcome c r installed)) s₁ :=
  ⟨_, steady_stages.logged s _ _, bind_of_ok rfl⟩

theorem stages_finish {data : Metadata}
    (installers : ∀ installer ∈ t.installer, ∀ maps, Keeps stages (installer maps))
    (r : List String × Option Fault × List ErrorDetail) (s : Session) :
    (after (t.finish c data r) s).stages = s.stages ++ t.installing c := by
  obtain ⟨s₁, kept, finished⟩ := exists_install_of_finish (t := t) (c := c) data r s
  have last :
      (after (t.install c data >>= fun installed => pure (outcome c r installed)) s₁).stages =
        (after (t.install c data) s₁).stages := Keeps.after_bind (fun _ => keeps_pure _) s₁
  rw [after_congr_at finished, last, stages_install installers, kept]

end Compilation
end PageBuild
