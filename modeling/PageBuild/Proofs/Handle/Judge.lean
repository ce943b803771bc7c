import PageBuild.Proofs.Session.Endings

/-! When a handle believes its compiler. A handle adds nothing to what the transcript says: it takes
the transcript as a whole or fails. -/
namespace PageBuild.Handle

open Session

theorem fault_ne_ok (h : Handle) (key : MessageKey) (code : String) (c : Completion)
    (about : String) (diagnostics : List Diagnostic) :
    h.fault key code c about ≠ .ok diagnostics :=
  h.messages.say_bind_throw_ne_ok _ _ _ diagnostics

/-- The diagnostics are believed if the code is one that the compiler ends with, every error has a
source, and a code other than zero comes with an error. -/
theorem judge_eq_ok_iff {h : Handle} {c : Completion} {diagnostics : List Diagnostic} :
    h.judge c = .ok diagnostics ↔
      c.code ∈ h.successCodes ∧ Transcript.parse h.format c.text = .ok diagnostics ∧
      (∀ d ∈ diagnostics, d.isError = true → d.source ≠ none) ∧
      (c.code = 0 ∨ ∃ d ∈ diagnostics, d.isError = true) := by
  constructor
  · intro hjudge
    unfold judge at hjudge
    split at hjudge
    · exact absurd hjudge (fault_ne_ok _ _ _ _ _ _)
    · next hcode =>
      split at hjudge
      · cases hjudge
      · next found hparse =>
        dsimp only at hjudge
        split at hjudge
        · exact absurd hjudge (fault_ne_ok _ _ _ _ _ _)
        · next hstray =>
          split at hjudge
          · exact absurd hjudge (fault_ne_ok _ _ _ _ _ _)
          · next hsilent =>
            obtain rfl := Except.ok.inj hjudge
            refine ⟨by simpa using hcode, hparse, ?_, ?_⟩
            · simpa [List.filter_eq_nil_iff] using hstray
            · simpa [Decidable.or_iff_not_imp_left] using hsilent
  · rintro ⟨hcode, hparse, hsourced, herror⟩
    have stray : (diagnostics.filter fun d => d.isError && d.source.isNone) = [] := by
      simpa [List.filter_eq_nil_iff] using hsourced
    have spoken : c.code ≠ 0 → diagnostics.any (·.isError) = true := by
      simpa [Decidable.or_iff_not_imp_left] using herror
    have heard : ¬ (c.code ≠ 0 && !diagnostics.any (·.isError)) = true := by
      simpa using spoken
    unfold judge
    simp only [hparse, stray, List.contains_iff_mem.mpr hcode, if_neg heard]
    rfl

end PageBuild.Handle
