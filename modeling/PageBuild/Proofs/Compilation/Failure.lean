import PageBuild.Proofs.Compilation.Diagnosis
import PageBuild.Proofs.Resolution.Conservation

/-! Failed compilers. A compiler that exits with a code other than zero leaves a compilation only
two ways out: it fails, or there are errors in the transcript. An error that cannot be placed is
skipped, so the outcome is a success exactly if all of them are of that kind. -/
namespace PageBuild

open Session

namespace Compilation

theorem findings_of_resolve {messages : Messages} {data : Metadata}
    {diagnostics : List Diagnostic} {s s' : Session} {errors : List ErrorDetail}
    (hresolve : resolve messages data diagnostics s = .ok errors s') :
    ∃ found, data.findings messages diagnostics = (found, none) ∧
      errors = found.filterMap (·.detail?) := by
  unfold resolve at hresolve
  rcases hfindings : data.findings messages diagnostics with ⟨found, failure?⟩
  rw [hfindings] at hresolve
  obtain ⟨_, s₁, -, hresolve⟩ := bind_eq_ok_iff.mp hresolve
  cases failure? with
  | some e => cases hresolve
  | none =>
    obtain ⟨rfl, -⟩ := pure_eq_ok_iff.mp hresolve
    exact ⟨found, rfl, rfl⟩

theorem diagnose_and_resolve_of_run {t : Compilation} {c : Context} {data : Metadata}
    {s s' : Session} {o : Outcome} (hrun : t.run c data s = .ok o s') :
    ∃ options diagnostics s₁ s₂ s₃, t.diagnose c s = .ok (options, diagnostics) s₁ ∧
      resolve t.messages data diagnostics s₂ = .ok o.errors s₃ := by
  obtain ⟨⟨options, diagnostics⟩, s₁, hdiagnose, hrun⟩ := bind_eq_ok_iff.mp hrun
  dsimp only at hrun
  split at hrun <;>
  · obtain ⟨cleanup, s₂, -, hrun⟩ := bind_eq_ok_iff.mp hrun
    obtain ⟨errors, s₃, hresolve, hrun⟩ := bind_eq_ok_iff.mp hrun
    obtain ⟨_, s₄, -, hrun⟩ := bind_eq_ok_iff.mp hrun
    obtain ⟨_, s₅, -, hrun⟩ := bind_eq_ok_iff.mp hrun
    obtain ⟨_, s₆, -, hpure⟩ := bind_eq_ok_iff.mp hrun
    obtain ⟨rfl, -⟩ := pure_eq_ok_iff.mp hpure
    exact ⟨options, diagnostics, s₁, s₂, s₃, hdiagnose, hresolve⟩

theorem install_of_no_installer {t : Compilation} (hinstaller : t.installer = none) (c : Context)
    (data : Metadata) (s : Session) : ∃ s', t.install c data s = .ok false s' := by
  unfold install
  split
  · exact ⟨s, rfl⟩
  · rw [hinstaller]
    exact ⟨_, rfl⟩

/-- A compilation whose errors are all skipped is a success. -/
theorem run_of_skipped {t : Compilation} {c : Context} {data : Metadata} {s s₁ : Session}
    {options : List String} {diagnostics : List Diagnostic} {found : List Finding}
    (hkeep : c.keepGenerated = true) (hinstaller : t.installer = none)
    (hdiagnose : t.diagnose c s = .ok (options, diagnostics) s₁)
    (hfindings : data.findings t.messages diagnostics = (found, none))
    (hskipped : found.filterMap (·.detail?) = []) :
    ∃ o s', t.run c data s = .ok o s' ∧ o.errors = [] := by
  obtain ⟨s₂, hresolve⟩ : ∃ s₂, resolve t.messages data diagnostics s₁ =
      .ok (found.filterMap (·.detail?)) s₂ := ⟨_, resolve_eq_of_findings hfindings s₁⟩
  rw [hskipped] at hresolve
  obtain ⟨s', hinstall⟩ := install_of_no_installer hinstaller c data
    { s₂ with journal := s₂.journal ++ [.logged .debug s!"Compiled {c.sourceFile.text} in 0ms"] }
  unfold run
  simp only [hkeep, if_true]
  exact ⟨_, s', bind_eq_ok_iff.mpr ⟨_, s₁, hdiagnose, bind_eq_ok_iff.mpr ⟨none, s₁, rfl,
    bind_eq_ok_iff.mpr ⟨[], s₂, hresolve, bind_eq_ok_iff.mpr ⟨(), s₂, rfl,
    bind_eq_ok_iff.mpr ⟨(), _, rfl, bind_eq_ok_iff.mpr ⟨false, s', hinstall, rfl⟩⟩⟩⟩⟩⟩, rfl⟩

/-- If the compiler exits with a code other than zero, the compilation fails, or the compiler has
reported an error; the outcome is a success exactly if no error can be placed. -/
theorem success_iff_not_places {t : Compilation} {c : Context} {data : Metadata} {s s' : Session}
    {o : Outcome} {code : Int} {output errors : List UInt8}
    (hending : s.endings.head? = some (.exited code output errors)) (hcode : code ≠ 0)
    (hrun : t.run c data s = .ok o s') :
    ∃ diagnostics,
      Transcript.parse t.backend.format
        (Text.strip (Completion.written output ++ "\n" ++ Completion.written errors)) =
        .ok diagnostics ∧
      (∃ d ∈ diagnostics, d.isError = true) ∧
      (o.success = true ↔ ∀ d ∈ diagnostics, d.isError = true → ¬ data.Places d) := by
  obtain ⟨options, diagnostics, s₁, s₂, s₃, hdiagnose, hresolve⟩ := diagnose_and_resolve_of_run hrun
  obtain ⟨h, command, completion, hformat, hcompletion, hjudge⟩ := judge_of_diagnose hdiagnose
  rw [nextEnding, hending] at hcompletion
  obtain ⟨-, rfl⟩ :=
    Command.ended_exited_eq_ok_iff.mp (Command.complete_eq_ok_iff.mp hcompletion).2
  obtain ⟨-, hparse, -, zero | error⟩ := Handle.judge_eq_ok_iff.mp hjudge
  · exact absurd zero hcode
  · obtain ⟨found, hfindings, herrors⟩ := findings_of_resolve hresolve
    refine ⟨diagnostics, hformat ▸ hparse, error, ?_⟩
    rw [Outcome.success, List.isEmpty_iff, herrors]
    exact Metadata.details_eq_nil_iff hfindings

def rooted : Compilation :=
  { backend := { Toolchain.ecj with executable := some "/j" }, dispatcher := .collecting }

def rootedContext : Context := { scratchDir := .ofText "/", sourceFile := .ofText "A.java" }

def rootedErrors : List UInt8 := Utf8.encode "1. ERROR in A.java (at line 2)"

def rootedSession : Session :=
  { files := ⟨[(["j"], .file [] true), (["tmp"], .directory)], []⟩
    endings := [.exited 1 [] rootedErrors] }

def singleLine : Metadata :=
  { page := some { nodes := [.mk
      { source := "a.jsp", startLine := 1, generatedStart := 1, generatedEnd := 2
        one_le_startLine := Nat.one_pos, one_le_generatedStart := Nat.one_pos
        one_le_generatedEnd := Nat.two_pos } []] } }

/-- What a diagnosis finds, without its texts. -/
def shape : EStateM.Result Failure Session (List String × List Diagnostic) →
    List (Bool × Bool × Option Int)
  | .ok (_, found) _ => found.map fun d => (d.isError, d.source.isSome, d.line)
  | .error _ _ => []

theorem ok_of_shape {r : EStateM.Result Failure Session (List String × List Diagnostic)}
    {line : Int} (h : shape r = [(true, true, some line)]) :
    ∃ options d s', r = .ok (options, [d]) s' ∧ d.isError = true ∧ d.source.isSome = true ∧
      d.line = some line := by
  cases r with
  | ok a s' =>
    obtain ⟨options, found⟩ := a
    obtain ⟨d, rfl, hd⟩ := List.map_eq_singleton_iff.mp h
    simp only [Prod.mk.injEq] at hd
    exact ⟨options, d, s', rfl, hd⟩
  | error e s' => contradiction

theorem shape_rooted_diagnose :
    shape (rooted.diagnose rootedContext rootedSession) = [(true, true, some 2)] := by
  decide +kernel

theorem say_lineUnmapped (source : String) :
    (rooted.messages.say .lineUnmapped [.text source, .int 2]).toOption.isSome = true := rfl

theorem findings_singleLine {d : Diagnostic} (hkind : d.isError = true)
    (hsource : d.source.isSome = true) (hline : d.line = some 2) :
    ∃ message, singleLine.findings rooted.messages [d] = ([.skipped message], none) := by
  obtain ⟨source, hsource⟩ := Option.isSome_iff_exists.mp hsource
  have said := say_lineUnmapped source
  cases hsay : rooted.messages.say .lineUnmapped [.text source, .int 2] with
  | error e => simp [hsay, Except.toOption] at said
  | ok message =>
    have unmappedLine : singleLine.byLineMap source 2 = .ok none := rfl
    have unpaged : singleLine.byPage 2 = none :=
      Metadata.byPage_eq_none_iff.mpr (by
        simp [singleLine, PageTree.Covers, PageNode.span, PageSpan.Covers])
    have known : singleLine.isEmpty = false := rfl
    refine ⟨message, ?_⟩
    simp [Metadata.findings, Metadata.finding, Metadata.resolve, Metadata.resolveAt, hkind, hsource,
      hline, known, unmappedLine, unpaged, Metadata.unmapped, hsay, bind, Except.bind, throw,
      throwThe, MonadExceptOf.throw]

theorem rooted_run : ∃ o s',
    rooted.run rootedContext singleLine rootedSession = .ok o s' ∧ o.errors = [] := by
  obtain ⟨options, d, s₁, hdiagnose, hkind, hsource, hline⟩ := ok_of_shape shape_rooted_diagnose
  obtain ⟨message, hfindings⟩ := findings_singleLine hkind hsource hline
  exact run_of_skipped rfl rfl hdiagnose hfindings rfl

theorem success_iff_not_places_singleLine : ∃ o s',
    rootedSession.endings.head? = some (.exited 1 [] rootedErrors) ∧
    rooted.run rootedContext singleLine rootedSession = .ok o s' ∧
    ∃ diagnostics,
      Transcript.parse rooted.backend.format
        (Text.strip (Completion.written [] ++ "\n" ++ Completion.written rootedErrors)) =
        .ok diagnostics ∧
      (∃ d ∈ diagnostics, d.isError = true) ∧
      (o.success = true ↔ ∀ d ∈ diagnostics, d.isError = true → ¬ singleLine.Places d) := by
  obtain ⟨o, s', hrun, -⟩ := rooted_run
  exact ⟨o, s', rfl, hrun, success_iff_not_places rfl (by decide) hrun⟩

/-- A code other than zero does not mean that an outcome has errors: the only one may have been
skipped. -/
theorem not_errors_of_exited : ¬ ∀ (t : Compilation) (c : Context) (data : Metadata)
    (s s' : Session) (o : Outcome) (code : Int) (output errors : List UInt8),
    t.backend.toToolchain = .javac ∨ t.backend.toToolchain = .ecj →
    s.endings.head? = some (.exited code output errors) → code ≠ 0 →
    t.run c data s = .ok o s' → o.errors ≠ [] := by
  intro claimed
  obtain ⟨o, s', hrun, herrors⟩ := rooted_run
  exact claimed rooted rootedContext singleLine rootedSession s' o 1 [] rootedErrors (.inr rfl) rfl
    (by decide) hrun herrors

end Compilation
end PageBuild
