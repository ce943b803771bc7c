import PageBuild.Proofs.Compilation.Failure
import PageBuild.Proofs.Compilation.Phases

/-! The protocol of a compilation. Whatever the compiler, the dispatcher and the installer do, the
steps of a run come in one order. The handle is closed as soon as the compiler has returned or
something before that has failed; deleting, reporting and installing come after it, each under its
own condition. -/
namespace PageBuild

open Session

/-! Whoever collects errors or writes symbol files enters no step of a compilation. -/

theorem Dispatcher.keeps_collecting {β : Type} {view : Session → β} (steady : Steady view)
    (hidden : ∀ s batches, view { s with batches } = view s) (errors : List ErrorDetail) :
    Keeps view (collecting errors) := by
  refine Keeps.bind (keeps_modify fun s => hidden s _) fun _ => keeps_forM ?_ errors
  intro d
  exact (steady.keeps_ofExcept _).bind fun _ => steady.keeps_log _ _

theorem Dispatcher.keeps_stages_collecting (errors : List ErrorDetail) :
    Keeps stages (collecting errors) :=
  keeps_collecting steady_stages (fun _ _ => rfl) errors

theorem SymbolFiles.keeps_write {β : Type} {view : Session → β} (steady : Steady view)
    (file : PathName) (m : LineMap) : Keeps view (write file m) := by
  refine (steady.keeps_attempt _).bind fun answer => ?_
  cases answer with
  | ok _ => exact (steady.keeps_ofExcept _).bind fun _ => steady.keeps_attempt _
  | error e => exact keeps_pure _

theorem SymbolFiles.keeps_installOne {β : Type} {view : Session → β} (steady : Steady view)
    (directory : PathName) (messages : Messages) (m : LineMap) :
    Keeps view (installOne directory messages m) := by
  refine (steady.keeps_ofExcept _).bind fun file => ?_
  refine (keeps_write steady file m).bind fun answer => ?_
  cases answer with
  | ok _ => exact steady.keeps_log _ _
  | error e => exact steady.keeps_ofExcept _

theorem SymbolFiles.keeps_install {β : Type} {view : Session → β} (steady : Steady view)
    (directory : PathName) (messages : Messages) (maps : Option LineMaps) :
    Keeps view (install directory messages maps) := by
  unfold install
  split
  · exact steady.keeps_log _ _
  · exact steady.keeps_log _ _
  · refine keeps_forM ?_ _
    rintro ⟨_, m⟩
    exact keeps_installOne steady directory messages m

theorem SymbolFiles.keeps_stages_install (directory : PathName) (messages : Messages)
    (maps : Option LineMaps) : Keeps stages (install directory messages maps) :=
  keeps_install steady_stages directory messages maps

namespace Compilation

def protocol : List Stage :=
  [.acquire, .options, .classOutput, .classPath, .compile, .close, .delete, .report, .install]

/-- The steps of a diagnosis are those of acquiring, preparing and closing a handle. -/
structure Prepares (t : Compilation) (c : Context) (s : Session) (steps : List Stage) : Prop where
  entered : (after (t.diagnose c) s).stages = s.stages ++ steps
  /-- The steps before a failure are all taken; without a handle only the first is. -/
  ordered : steps = [.acquire] ∨
    ∃ part, part <+: preparation ∧ steps = [.acquire] ++ part ++ [.close]
  /-- A handle that was acquired is closed, and that is the end of the diagnosis. -/
  closed : ∀ h s₁, t.backend.acquire c.encoding (s.entered .acquire) = .ok h s₁ →
    .close ∈ steps ∧ ∃ s₂ : Session,
      h.close (s₂.entered .close) = .ok { h with isClosed := true } (after (t.diagnose c) s)
  /-- The compiler is run once at most, on the one source. -/
  launched : (after (t.diagnose c) s).launches = s.launches ∨
    ∃ h s₁ launch, t.backend.acquire c.encoding (s.entered .acquire) = .ok h s₁ ∧
      launch.Passes h.toCaller
        ((h.located c).arguments (t.backend.dialect.options c) [c.sourceFile.text]) ∧
      (after (t.diagnose c) s).launches = s.launches ++ [launch]
  /-- If it returned, all steps were taken and it has been run. -/
  returned : ∀ found s', t.diagnose c s = .ok found s' →
    steps = [.acquire] ++ preparation ++ [.close] ∧ s'.launches ≠ s.launches

/-- The steps that follow a diagnosis are those that the policy of the context asks for. -/
structure Concludes (t : Compilation) (c : Context) (data : Metadata) (s : Session)
    (steps : List Stage) : Prop where
  entered : (after (t.run c data) s).stages = (after (t.diagnose c) s).stages ++ steps
  /-- A failed diagnosis is the end of the run. -/
  failed : ∀ e s', t.diagnose c s = .error e s' → t.run c data s = .error e s' ∧ steps = []
  ordered : ∀ options diagnostics s', t.diagnose c s = .ok (options, diagnostics) s' →
    steps <+: deletion c ++ reporting (data.details diagnostics) ++ t.installing c
  deletes : .delete ∈ steps ↔
    (∃ found s', t.diagnose c s = .ok found s') ∧ c.keepGenerated = false
  reports : .report ∈ steps ↔ ∃ options diagnostics s',
    t.diagnose c s = .ok (options, diagnostics) s' ∧ data.details diagnostics ≠ []
  /-- The dispatcher gets all details at once, and the run goes on if it returns. -/
  dispatched : ∀ options diagnostics s', t.diagnose c s = .ok (options, diagnostics) s' →
    data.details diagnostics ≠ [] → ∃ refused s₁,
      s₁.stages = (after (t.diagnose c) s).stages ++ deletion c ++ [.report] ∧
      t.run c data s = (t.dispatcher (data.details diagnostics) >>= fun _ =>
        t.finish c data (options, refused, data.details diagnostics)) s₁
  installs : .install ∈ steps ↔ (∃ r s', t.reported c data s = .ok r s') ∧ t.MayInstall c
  /-- The installer gets the line maps, and its failure is that of the run. -/
  installed : .install ∈ steps → ∃ installer ∈ t.installer, ∃ r s₁,
    s₁.stages = (after (t.diagnose c) s).stages ++ steps ∧
    t.run c data s = (installer data.lineMaps >>= fun _ => pure (outcome c r true)) s₁
  /-- The outcome tells what was done. -/
  returned : ∀ o s', t.run c data s = .ok o s' → ∃ diagnostics s₁,
    t.diagnose c s = .ok (o.options, diagnostics) s₁ ∧ o.errors = data.details diagnostics ∧
      (o.symbolsInstalled = true ↔ .install ∈ steps) ∧
      (o.sourceDeleted = true ↔ .delete ∈ steps ∧ o.cleanup.isNone = true)

variable {t : Compilation} {c : Context} {data : Metadata} {h : Handle} {s s₁ s₂ s₃ : Session}

theorem prepares_of_acquire_error {e : Failure}
    (hacquire : t.backend.acquire c.encoding (s.entered .acquire) = .error e s₁) :
    t.Prepares c s [.acquire] := by
  have failed := diagnose_of_acquire_error hacquire
  have ended := after_of_error failed
  constructor
  · rw [ended, (steady_stages.keeps_acquire _ _).of_error hacquire, stages_entered]
  · exact .inl rfl
  · intro h s₁ acquired
    simp [hacquire] at acquired
  · left
    rw [ended, (steady_launches.keeps_acquire _ _).of_error hacquire, launches_entered]
  · intro found s' run
    simp [failed] at run

theorem exists_prepares_of_acquire
    (hacquire : t.backend.acquire c.encoding (s.entered .acquire) = .ok h s₁) :
    ∃ steps, t.Prepares c s steps := by
  have acquired : s₁.stages = s.stages ++ [.acquire] := by
    rw [(steady_stages.keeps_acquire _ _).of_ok hacquire, stages_entered]
  have unstarted : s₁.launches = s.launches := by
    rw [(steady_launches.keeps_acquire _ _).of_ok hacquire, launches_entered]
  obtain ⟨closed, returned⟩ := diagnose_of_acquire hacquire
  obtain ⟨part, start, prepared, whole⟩ := (adds_diagnoseWith t c h).after s₁
  have entered := (steady_stages.keeps_close h).of_ok closed
  have started := (steady_launches.keeps_close h).of_ok closed
  rw [stages_entered, prepared, acquired] at entered
  rw [launches_entered] at started
  refine ⟨[.acquire] ++ part ++ [.close], ?_, .inr ⟨part, start, rfl⟩, ?_, ?_, ?_⟩
  · simp [entered]
  · intro h' s' same
    rw [hacquire] at same
    cases same
    exact ⟨by simp, _, closed⟩
  · rw [started, ← unstarted]
    rcases (startsOne_diagnoseWith t c h s₁).after with ⟨kept, -⟩ | ⟨launch, passes, one⟩
    · exact .inl kept
    · exact .inr ⟨h, s₁, launch, hacquire, passes, one⟩
  · intro found s' run
    obtain ⟨s₂, body⟩ := returned found s' run
    refine ⟨by rw [whole found s₂ body], ?_⟩
    rw [← after_of_ok run, started, ← unstarted]
    rcases (startsOne_diagnoseWith t c h s₁).after with ⟨-, failed⟩ | ⟨launch, -, one⟩
    · exact absurd body (failed found s₂)
    · simp [one]

theorem concludes_of_error {e : Failure} (hdiagnose : t.diagnose c s = .error e s₁) :
    t.Concludes c data s [] := by
  have hrun : t.run c data s = .error e s₁ := bind_of_error hdiagnose
  have hreported : t.reported c data s = .error e s₁ := bind_of_error hdiagnose
  constructor
  · rw [after_of_error hrun, after_of_error hdiagnose, List.append_nil]
  · intro e' s' failed
    rw [hdiagnose] at failed
    cases failed
    exact ⟨hrun, rfl⟩
  · intro options diagnostics s' returned
    simp [hdiagnose] at returned
  · simp [hdiagnose]
  · simp [hdiagnose]
  · intro options diagnostics s' returned
    simp [hdiagnose] at returned
  · simp [hreported]
  · intro member
    simp at member
  · intro o s' returned
    simp [hrun] at returned

structure Finishes (t : Compilation) (c : Context) (data : Metadata) (s s₂ : Session)
    (r : List String × Option Fault × List ErrorDetail) (steps : List Stage) : Prop where
  entered : (after (t.run c data) s).stages = s₂.stages ++ reporting r.2.2 ++ steps
  ordered : steps <+: t.installing c
  reported : .install ∈ steps ↔ (∃ r s', t.reported c data s = .ok r s') ∧ t.MayInstall c
  installed : .install ∈ steps → ∃ installer ∈ t.installer, ∃ s₁ : Session,
    s₁.stages = s₂.stages ++ reporting r.2.2 ++ steps ∧
    t.run c data s = (installer data.lineMaps >>= fun _ => pure (outcome c r true)) s₁
  returned : ∀ o s', t.run c data s = .ok o s' →
    ∃ installed, o = outcome c r installed ∧ (installed = true ↔ .install ∈ steps)

theorem exists_finishes {r : List String × Option Fault × List ErrorDetail}
    (dispatcher : ∀ errors, Keeps stages (t.dispatcher errors))
    (installers : ∀ installer ∈ t.installer, ∀ maps, Keeps stages (installer maps))
    (hreported : t.reported c data s = (t.report r.2.2 >>= fun _ => pure r) s₂)
    (hrun : t.run c data s = (t.report r.2.2 >>= fun _ => t.finish c data r) s₂) :
    ∃ steps, t.Finishes c data s s₂ r steps := by
  have told := stages_report dispatcher r.2.2 s₂
  -- If the report fails, so does the run; and if it returns, installing decides.
  cases hreport : t.report r.2.2 s₂ with
  | error e s₃ =>
    rw [after_of_error hreport] at told
    have failed := hreported.trans (bind_of_error hreport)
    have ended := hrun.trans (bind_of_error hreport)
    refine ⟨[], ?_, List.nil_prefix, ?_, ?_, ?_⟩
    · rw [after_of_error ended, told, List.append_nil]
    · simp [failed]
    · simp
    · intro o s' returned
      simp [ended] at returned
  | ok _ s₃ =>
    rw [after_of_ok hreport] at told
    have returned : t.reported c data s = .ok r s₃ :=
      hreported.trans ((bind_of_ok hreport).trans rfl)
    have finished := hrun.trans (bind_of_ok hreport)
    obtain ⟨s₄, kept, ends⟩ := exists_install_of_finish (t := t) (c := c) data r s₃
    have ended := finished.trans ends
    refine ⟨t.installing c, ?_, List.prefix_rfl, ?_, ?_, ?_⟩
    · rw [after_congr_at finished, stages_finish installers, told]
    · rw [mem_installing_iff]
      simp [returned]
    · intro member
      obtain ⟨-, allowed⟩ := mem_installing_iff.mp member
      obtain ⟨installer, given, installs⟩ := install_of_mayInstall data allowed s₄
      have step : t.installing c = [.install] := if_pos allowed
      refine ⟨installer, given, s₄.entered .install, ?_, ?_⟩
      · rw [stages_entered, kept, told, step]
      · rw [ended, bind_congr_at installs, bind_assoc]
        rfl
    · intro o s' run
      obtain ⟨installed, s₅, hinstall, hpure⟩ := bind_eq_ok_iff.mp (ended.symm.trans run)
      obtain ⟨rfl, -⟩ := pure_eq_ok_iff.mp hpure
      refine ⟨installed, rfl, ?_⟩
      rw [eq_of_install hinstall, decide_eq_true_iff, mem_installing_iff]
      simp

theorem exists_concludes_of_ok {options : List String} {diagnostics : List Diagnostic}
    (hmessages : t.messages = {}) (noNul : Char.ofNat 0 ∉ c.sourceFile.text.toList)
    (consistent : data.IsConsistent) (dispatcher : ∀ errors, Keeps stages (t.dispatcher errors))
    (installers : ∀ installer ∈ t.installer, ∀ maps, Keeps stages (installer maps))
    (hdiagnose : t.diagnose c s = .ok (options, diagnostics) s₁) :
    ∃ steps, t.Concludes c data s steps := by
  obtain ⟨refused, s₂, deleted, hreported, hrun⟩ :=
    exists_report_of_diagnose hmessages noNul consistent hdiagnose
  obtain ⟨last, finishes⟩ := exists_finishes (r := (options, refused, data.details diagnostics))
    dispatcher installers hreported hrun
  -- Nothing but the installation is left after the report.
  have last_eq : ∀ stage ∈ last, stage = .install := fun stage inLast =>
    (mem_installing_iff.mp (finishes.ordered.subset inLast)).1
  have noDelete : .delete ∉ last := fun inLast => nomatch last_eq _ inLast
  have noReport : .report ∉ last := fun inLast => nomatch last_eq _ inLast
  refine ⟨deletion c ++ reporting (data.details diagnostics) ++ last, ?_, ?_, ?_, ?_, ?_, ?_, ?_,
    ?_, ?_⟩
  · rw [finishes.entered, deleted, after_of_ok hdiagnose]
    simp
  · intro e s' failed
    simp [hdiagnose] at failed
  · intro options' diagnostics' s' same
    rw [hdiagnose] at same
    cases same
    exact (List.prefix_append_right_inj _).mpr finishes.ordered
  · simp [mem_deletion_iff, mem_reporting_iff, noDelete, hdiagnose]
  · simp [mem_deletion_iff, mem_reporting_iff, noReport, hdiagnose]
  · intro options' diagnostics' s' same found
    rw [hdiagnose] at same
    cases same
    refine ⟨refused, s₂.entered .report, ?_, hrun.trans (bind_congr_at (report_of_ne_nil found s₂))⟩
    rw [stages_entered, deleted, after_of_ok hdiagnose]
  · simpa [mem_deletion_iff, mem_reporting_iff] using finishes.reported
  · intro installs
    have inLast : .install ∈ last := by
      simpa [mem_deletion_iff, mem_reporting_iff] using installs
    obtain ⟨installer, given, s₃, entered, run⟩ := finishes.installed inLast
    refine ⟨installer, given, _, s₃, ?_, run⟩
    rw [entered, deleted, after_of_ok hdiagnose]
    simp
  · intro o s' run
    obtain ⟨installed, rfl, tells⟩ := finishes.returned o s' run
    refine ⟨diagnostics, s₁, hdiagnose, rfl, ?_, ?_⟩
    · simpa [mem_deletion_iff, mem_reporting_iff, outcome] using tells
    · simp [mem_deletion_iff, mem_reporting_iff, noDelete, outcome]

theorem Prepares.sublist {steps : List Stage} (prepares : t.Prepares c s steps) :
    steps.Sublist ([.acquire] ++ preparation ++ [.close]) := by
  rcases prepares.ordered with rfl | ⟨part, start, rfl⟩
  · simp
  · exact (List.Sublist.refl [.acquire] |>.append start.sublist).append (.refl [.close])

theorem Concludes.sublist {steps : List Stage} (concludes : t.Concludes c data s steps) :
    steps.Sublist ([.delete] ++ [.report] ++ [.install]) := by
  cases hdiagnose : t.diagnose c s with
  | ok found s₁ =>
    obtain ⟨options, diagnostics⟩ := found
    have deletes : (deletion c).Sublist [.delete] := by
      unfold deletion
      split <;> simp
    have reports : (reporting (data.details diagnostics)).Sublist [.report] := by
      unfold reporting
      split <;> simp
    have installs : (t.installing c).Sublist [.install] := by
      unfold installing
      split <;> simp
    exact (concludes.ordered options diagnostics s₁ hdiagnose).sublist.trans
      ((deletes.append reports).append installs)
  | error e s₁ =>
    rw [(concludes.failed e s₁ hdiagnose).2]
    exact List.nil_sublist _

/-- Whatever becomes of a compilation, its steps follow the protocol. -/
theorem run_follows_protocol (hmessages : t.messages = {})
    (noNul : Char.ofNat 0 ∉ c.sourceFile.text.toList) (consistent : data.IsConsistent)
    (dispatcher : ∀ errors, Keeps stages (t.dispatcher errors))
    (installers : ∀ installer ∈ t.installer, ∀ maps, Keeps stages (installer maps)) (s : Session) :
    ∃ before rest, t.Prepares c s before ∧ t.Concludes c data s rest ∧
      (after (t.run c data) s).stages = s.stages ++ (before ++ rest) ∧
      (before ++ rest).Sublist protocol := by
  obtain ⟨before, prepares⟩ : ∃ before, t.Prepares c s before := by
    cases hacquire : t.backend.acquire c.encoding (s.entered .acquire) with
    | ok h s₁ => exact exists_prepares_of_acquire hacquire
    | error e s₁ => exact ⟨_, prepares_of_acquire_error hacquire⟩
  obtain ⟨rest, concludes⟩ : ∃ rest, t.Concludes c data s rest := by
    cases hdiagnose : t.diagnose c s with
    | ok found s₁ =>
      exact exists_concludes_of_ok hmessages noNul consistent dispatcher installers hdiagnose
    | error e s₁ => exact ⟨[], concludes_of_error hdiagnose⟩
  refine ⟨before, rest, prepares, concludes, ?_, ?_⟩
  · rw [concludes.entered, prepares.entered, List.append_assoc]
  · exact prepares.sublist.append concludes.sublist

def sweptContext : Context := { rootedContext with keepGenerated := false }

def sweeping : Compilation := .standard rooted.backend sweptContext

theorem run_follows_protocol_sweeping :
    sweeping.messages = {} ∧ Char.ofNat 0 ∉ sweptContext.sourceFile.text.toList ∧
    singleLine.IsConsistent ∧ (∀ errors, Keeps stages (sweeping.dispatcher errors)) ∧
    (∀ installer ∈ sweeping.installer, ∀ maps, Keeps stages (installer maps)) ∧
    ∃ rest, sweeping.Prepares sweptContext rootedSession ([.acquire] ++ preparation ++ [.close]) ∧
      sweeping.Concludes sweptContext singleLine rootedSession rest ∧ .delete ∈ rest := by
  have noNul : Char.ofNat 0 ∉ sweptContext.sourceFile.text.toList := by decide
  have consistent : singleLine.IsConsistent := by decide
  have installers : ∀ installer ∈ sweeping.installer, ∀ maps, Keeps stages (installer maps) := by
    intro installer given maps
    obtain rfl := Option.some.inj given
    exact SymbolFiles.keeps_stages_install _ _ maps
  refine ⟨rfl, noNul, consistent, Dispatcher.keeps_stages_collecting, installers, ?_⟩
  obtain ⟨before, rest, prepares, concludes, -⟩ := run_follows_protocol (t := sweeping) rfl noNul
    consistent Dispatcher.keeps_stages_collecting installers rootedSession
  have same : sweeping.diagnose sweptContext rootedSession =
    rooted.diagnose rootedContext rootedSession := rfl
  obtain ⟨options, d, s', diagnosed, -⟩ := ok_of_shape shape_rooted_diagnose
  have returned := same.trans diagnosed
  obtain ⟨rfl, -⟩ := prepares.returned _ _ returned
  exact ⟨rest, prepares, concludes, concludes.deletes.mpr ⟨⟨_, _, returned⟩, rfl⟩⟩

end Compilation
end PageBuild
