import PageBuild.Compilation
import PageBuild.Proofs.Handle.Directory
import PageBuild.Proofs.Handle.Judge

/-! Diagnoses. What a diagnosis returns is what the handle makes of the next ending of the session:
nothing before the command of the compiler takes that ending. A source that was diagnosed has
reached the compiler. -/
namespace PageBuild

open Session

namespace Handle

/-- The diagnostics of a run are those that the completion of the command is judged to have. -/
theorem judge_of_compile {h : Handle} {options sources : List String} {s s' : Session}
    {diagnostics : List Diagnostic} (hcompile : h.compile options sources s = .ok diagnostics s') :
    ∃ command completion, Command.complete command h.timeout s.nextEnding = .ok completion ∧
      h.judge completion = .ok diagnostics := by
  obtain ⟨_, s₁, hopen, hcompile⟩ := bind_eq_ok_iff.mp hcompile
  obtain ⟨command, s₂, hprepare, hcompile⟩ := bind_eq_ok_iff.mp hcompile
  obtain ⟨completion, s₃, hrun, hjudge⟩ := bind_eq_ok_iff.mp hcompile
  have kept : s₂.nextEnding = s.nextEnding := by
    rw [(steady_nextEnding.keeps_prepare h _).of_ok hprepare,
      (steady_nextEnding.keeps_requireOpen h).of_ok hopen]
  rw [← kept]
  exact ⟨command, completion, Command.run_eq_ok hrun, (ofExcept_eq_ok_iff.mp hjudge).1⟩

/-- A source of a run was passed to the operating system, or it stands in the argument file. -/
theorem of?_of_compile {h : Handle} {options sources : List String} {s s' : Session}
    {diagnostics : List Diagnostic} (hcompile : h.compile options sources s = .ok diagnostics s')
    {source : String} (member : source ∈ sources) (noNul : Char.ofNat 0 ∉ source.toList) :
    TextFault.of? source = none := by
  have argued : source ∈ h.arguments options sources := List.mem_append_right _ member
  obtain ⟨_, s₁, -, hcompile⟩ := bind_eq_ok_iff.mp hcompile
  obtain ⟨command, s₂, prepared, hcompile⟩ := bind_eq_ok_iff.mp hcompile
  obtain ⟨completion, s₃, hrun, -⟩ := bind_eq_ok_iff.mp hcompile
  cases uses : h.usesArgumentFile with
  | true => exact TextFault.of?_of_isEncodable ((canPass_of_prepare prepared uses).1 _ argued) noNul
  | false =>
    unfold prepare at prepared
    rw [if_neg (by simp [uses])] at prepared
    obtain ⟨rfl, -⟩ := pure_eq_ok_iff.mp prepared
    exact Command.of?_of_complete (Command.run_eq_ok hrun) (List.mem_append_right _ argued)

end Handle

namespace Compilation

theorem keeps_nextEnding_enter (stage : Stage) : Keeps Session.nextEnding (enter stage) :=
  keeps_modify fun _ => rfl

/-- What is done before the compiler is called takes no ending. -/
theorem compile_of_diagnoseWith {t : Compilation} {c : Context} {h : Handle} {s s' : Session}
    {options : List String} {diagnostics : List Diagnostic}
    (hdiagnose : t.diagnoseWith c h s = .ok (options, diagnostics) s') :
    ∃ (h' : Handle) (s₁ s₂ : Session), h'.toCaller = h.toCaller ∧ s₁.nextEnding = s.nextEnding ∧
      h'.compile options [c.sourceFile.text] s₁ = .ok diagnostics s₂ := by
  obtain ⟨_, s₁, hoptions, hdiagnose⟩ := bind_eq_ok_iff.mp hdiagnose
  obtain ⟨_, s₂, hensure, hdiagnose⟩ := bind_eq_ok_iff.mp hdiagnose
  obtain ⟨_, s₃, houtput, hdiagnose⟩ := bind_eq_ok_iff.mp hdiagnose
  obtain ⟨h₁, s₄, hsetOutput, hdiagnose⟩ := bind_eq_ok_iff.mp hdiagnose
  obtain ⟨_, s₅, hpath, hdiagnose⟩ := bind_eq_ok_iff.mp hdiagnose
  obtain ⟨h₂, s₆, hsetPath, hdiagnose⟩ := bind_eq_ok_iff.mp hdiagnose
  obtain ⟨_, s₇, hcompile, hdiagnose⟩ := bind_eq_ok_iff.mp hdiagnose
  obtain ⟨found, s₈, hrun, hpure⟩ := bind_eq_ok_iff.mp hdiagnose
  obtain ⟨⟨⟩, -⟩ := pure_eq_ok_iff.mp hpure
  refine ⟨h₂, s₇, s₈, ?_, ?_, hrun⟩
  · rw [Handle.eq_of_setLocation hsetPath, Handle.eq_of_setLocation hsetOutput,
      Handle.toCaller_withLocation, Handle.toCaller_withLocation]
  · rw [(keeps_nextEnding_enter _).of_ok hcompile,
      (steady_nextEnding.keeps_setLocation h₁ _ _).of_ok hsetPath,
      (keeps_nextEnding_enter _).of_ok hpath,
      (steady_nextEnding.keeps_setLocation h _ _).of_ok hsetOutput,
      (keeps_nextEnding_enter _).of_ok houtput, (steady_nextEnding.keeps_change _).of_ok hensure,
      (keeps_nextEnding_enter _).of_ok hoptions]

theorem ok_of_andFinally {α : Type} {body : Action α} {last : Action Unit} {s s' : Session} {a : α}
    (h : andFinally body last s = .ok a s') : ∃ s₁, body s = .ok a s₁ := by
  unfold andFinally at h
  split at h
  · next found s₁ hbody =>
    split at h
    · obtain ⟨rfl, -⟩ := EStateM.Result.ok.inj h
      exact ⟨s₁, hbody⟩
    · cases h
  · split at h <;> cases h

theorem compile_of_diagnose {t : Compilation} {c : Context} {s s' : Session} {options : List String}
    {diagnostics : List Diagnostic}
    (hdiagnose : t.diagnose c s = .ok (options, diagnostics) s') :
    ∃ (h : Handle) (s₁ s₂ : Session),
      h.format = t.backend.format ∧ s₁.nextEnding = s.nextEnding ∧
      h.compile options [c.sourceFile.text] s₁ = .ok diagnostics s₂ := by
  obtain ⟨_, s₁, henter, hdiagnose⟩ := bind_eq_ok_iff.mp hdiagnose
  obtain ⟨h, s₂, hacquire, hdiagnose⟩ := bind_eq_ok_iff.mp hdiagnose
  obtain ⟨s₃, hbody⟩ := ok_of_andFinally hdiagnose
  obtain ⟨h', s₄, s₅, hcaller, kept, hcompile⟩ := compile_of_diagnoseWith hbody
  refine ⟨h', s₄, s₅, ?_, ?_, hcompile⟩
  · rw [← Backend.format_of_acquire hacquire, hcaller]
  · rw [kept, (steady_nextEnding.keeps_acquire t.backend _).of_ok hacquire,
      (keeps_nextEnding_enter _).of_ok henter]

theorem judge_of_diagnose {t : Compilation} {c : Context} {s s' : Session} {options : List String}
    {diagnostics : List Diagnostic}
    (hdiagnose : t.diagnose c s = .ok (options, diagnostics) s') :
    ∃ (h : Handle) (command : List String) (completion : Completion),
      h.format = t.backend.format ∧
      Command.complete command h.timeout s.nextEnding = .ok completion ∧
      h.judge completion = .ok diagnostics := by
  obtain ⟨h, s₁, s₂, hformat, kept, hcompile⟩ := compile_of_diagnose hdiagnose
  obtain ⟨command, completion, hcompletion, hjudge⟩ := h.judge_of_compile hcompile
  rw [kept] at hcompletion
  exact ⟨h, command, completion, hformat, hcompletion, hjudge⟩

/-- The path of a source that was diagnosed can be passed to the operating system. -/
theorem of?_of_diagnose {t : Compilation} {c : Context} {s s' : Session} {options : List String}
    {diagnostics : List Diagnostic}
    (hdiagnose : t.diagnose c s = .ok (options, diagnostics) s')
    (noNul : Char.ofNat 0 ∉ c.sourceFile.text.toList) :
    TextFault.of? c.sourceFile.text = none := by
  obtain ⟨h, s₁, s₂, -, -, hcompile⟩ := compile_of_diagnose hdiagnose
  exact Handle.of?_of_compile hcompile (List.mem_singleton_self _) noNul

end Compilation
end PageBuild
