import PageBuild.Proofs.CommandLine.Loading
import PageBuild.Proofs.Compilation.Policy

/-! The exit codes of the command line. Once the compiler has returned, every failure of a
compilation is told. Before that some escape: the operating system refuses a path or a program, a
document is nested too deeply, the document for the line maps is no object, and the time for the
compiler is longer than can be waited. After that, an outcome whose lines have no encoding is not
printed. -/
namespace PageBuild

open Session

namespace Compilation

variable {t : Compilation} {c : Context} {h : Handle} {data : Metadata} {s s₁ : Session}
  {P : Failure → Prop}

theorem failsWith_andFinally {α : Type} {body : Action α} {last : Action Unit}
    (hbody : FailsWith P body) (hlast : FailsWith P last) : FailsWith P (andFinally body last) := by
  intro s e s' failed
  unfold andFinally at failed
  split at failed
  · split at failed
    · cases failed
    · next closed =>
      cases failed
      exact hlast _ _ _ closed
  · next failure =>
    split at failed
    · cases failed
      exact hbody _ _ _ failure
    · next closed =>
      cases failed
      exact hlast _ _ _ closed

theorem failsWith_enter (stage : Stage) : FailsWith P (enter stage) := failsWith_modify _

theorem failsWith_diagnoseWith (hmessages : h.messages = {}) :
    FailsWith (fun e => e.IsPlain ∨ e.IsEndless h.timeout) (t.diagnoseWith c h) := by
  refine (failsWith_enter _).bind fun _ _ _ _ => ?_
  refine ((failsWith_change _).mono fun _ => .inl).bind fun _ _ _ _ => ?_
  refine (failsWith_enter _).bind fun _ _ _ _ => ?_
  refine ((h.failsWith_setLocation _ _).mono fun _ => .inl).bind fun _ h₁ _ output => ?_
  refine (failsWith_enter _).bind fun _ _ _ _ => ?_
  refine ((h₁.failsWith_setLocation _ _).mono fun _ => .inl).bind fun _ h₂ _ path => ?_
  refine (failsWith_enter _).bind fun _ _ _ _ => ?_
  have caller : h₂.toCaller = h.toCaller := by
    rw [Handle.eq_of_setLocation path, Handle.toCaller_withLocation,
      Handle.eq_of_setLocation output, Handle.toCaller_withLocation]
  have speaks : h₂.messages = {} := (congrArg Caller.messages caller).trans hmessages
  rw [← congrArg Caller.timeout caller]
  exact (Handle.failsWith_compile speaks _ _).bind fun _ _ _ _ => failsWith_pure _

/-- A diagnosis is refused, it is out of time, or it fails with what is told. -/
theorem failsWith_diagnose (hmessages : t.backend.messages = {}) :
    FailsWith (fun e => e.IsPlain ∨ e.IsEndless t.backend.timeout) (t.diagnose c) := by
  refine (failsWith_enter _).bind fun _ _ _ _ => ?_
  refine ((Backend.failsWith_acquire hmessages _).mono fun _ => .inl).bind fun _ h _ acquired => ?_
  obtain ⟨speaks, waits⟩ := Backend.of_acquire acquired
  refine failsWith_andFinally (waits ▸ failsWith_diagnoseWith (speaks.trans hmessages)) ?_
  refine (failsWith_enter _).bind fun _ _ _ _ => ?_
  exact ((Handle.failsWith_close h).mono fun _ => .inl).bind fun _ _ _ _ => failsWith_pure _

theorem failsWith_cleanup (hmessages : t.messages = {}) :
    FailsWith Failure.IsTold (t.cleanup c) := by
  unfold cleanup
  split
  · exact failsWith_pure _
  · refine (failsWith_enter _).bind fun _ _ _ _ => ?_
    refine (failsWith_attempt _).bind fun _ answer _ _ => ?_
    cases answer with
    | ok _ => exact failsWith_pure _
    | error refusal =>
      refine FailsWith.bind ?_ fun _ f _ _ => ?_
      · refine failsWith_ofExcept fun e failed => ?_
        unfold notDeleted at failed
        rw [hmessages, Messages.say_sourceDeleteFailed] at failed
        cases failed
      · exact (failsWith_modify _).bind fun _ _ _ _ => failsWith_pure _

/-- Errors that a diagnosis found can be resolved. -/
theorem failsWith_resolve (hmessages : t.messages = {}) (consistent : data.IsConsistent)
    {options : List String} {diagnostics : List Diagnostic}
    (hdiagnose : t.diagnose c s = .ok (options, diagnostics) s₁) :
    FailsWith P (resolve t.messages data diagnostics) := by
  intro s₂ e s₃ failed
  obtain ⟨s₄, resolved, -⟩ := exists_resolve hmessages consistent hdiagnose s₂
  rw [resolved] at failed
  cases failed

/-- A line that is too long for its number fails for the number. -/
theorem failsWith_ofNumber {α : Type} (x : Except Decimal.Overlong α) :
    FailsWith Failure.IsTold (Session.ofExcept (x.mapError .ofNumber)) := by
  refine failsWith_ofExcept fun e failed => ?_
  obtain ⟨_, -, rfl⟩ := Except.mapError_eq_error_iff.mp failed
  exact Failure.isTold_value _

theorem failsWith_collecting (errors : List ErrorDetail) :
    FailsWith Failure.IsTold (Dispatcher.collecting errors) := by
  refine (failsWith_modify _).bind fun _ _ _ _ => failsWith_forM fun d _ => ?_
  exact (failsWith_ofNumber d.text).bind fun _ _ _ _ => failsWith_modify _

theorem failsWith_write (file : PathName) (m : LineMap) :
    FailsWith Failure.IsTold (SymbolFiles.write file m) := by
  refine (failsWith_attempt _).bind fun _ answer _ _ => ?_
  cases answer with
  | ok _ => exact (failsWith_ofNumber m.smap).bind fun _ _ _ _ => failsWith_attempt _
  | error refusal => exact failsWith_pure _

theorem failsWith_symbolFiles (directory : PathName) (maps : Option LineMaps) :
    FailsWith Failure.IsTold (SymbolFiles.install directory {} maps) := by
  unfold SymbolFiles.install
  split
  · exact failsWith_modify _
  · exact failsWith_modify _
  · next maps _ =>
    refine failsWith_forM fun member _ => ?_
    refine FailsWith.bind ?_ fun _ file _ _ => ?_
    · refine failsWith_ofExcept fun e failed => ?_
      unfold SymbolFiles.target at failed
      split at failed
      · cases failed
      · cases failed
        exact Failure.isTold_value _
    · refine (failsWith_write file _).bind fun _ answer _ _ => ?_
      cases answer with
      | ok _ => exact failsWith_modify _
      | error refusal =>
        refine failsWith_ofExcept fun e failed => ?_
        unfold SymbolFiles.failed at failed
        exact Messages.isTold_of_say_bind_throw failed

/-- Whatever fails after the compiler has returned is told. -/
theorem failsWith_conclude_standard {b : Backend} (consistent : data.IsConsistent)
    {found : List String × List Diagnostic}
    (hdiagnose : (standard b c).diagnose c s = .ok found s₁) :
    FailsWith Failure.IsTold ((standard b c).conclude c data found) := by
  refine (failsWith_cleanup rfl).bind fun _ refused _ _ => ?_
  refine (failsWith_resolve rfl consistent hdiagnose).bind fun _ errors _ _ => ?_
  refine FailsWith.bind ?_ fun _ _ _ _ => ?_
  · unfold report
    split
    · exact (failsWith_enter _).bind fun _ _ _ _ => failsWith_collecting errors
    · exact failsWith_pure _
  · refine (failsWith_modify _).bind fun _ _ _ _ => FailsWith.bind ?_ fun _ _ _ _ =>
      failsWith_pure _
    unfold install
    split
    · exact failsWith_pure _
    · refine (failsWith_enter _).bind fun _ _ _ _ => ?_
      exact (failsWith_symbolFiles c.scratchDir _).bind fun _ _ _ _ => failsWith_pure _

end Compilation

namespace CommandLine

variable {s : Settings} {session s' : Session} {e : Failure}

/-- How a compilation fails without that being told. -/
inductive Escapes (s : Settings) (session : Session) : Failure → Prop
  /-- A document is not read. -/
  | unread {e : Failure} (h : s.Unread session.files e) : Escapes s session e
  /-- All is loaded, but the operating system refuses on the way to a diagnosis. -/
  | refused {o : Order} {refusal : OsError} {s' : Session} (ordered : s.order session.files = .ok o)
      (h : o.compilation.diagnose o.context session = .error (.refused refusal) s') :
      Escapes s session (.refused refusal)
  /-- The compiler is started, but the time for it is longer than can be waited. -/
  | endless {o : Order} {s' : Session} (ordered : s.order session.files = .ok o)
      (late : (s.timeout.map Quantity.real).bind Command.unwaitable? = some .overflow)
      (h : o.compilation.diagnose o.context session = .error .overflow s') :
      Escapes s session .overflow

theorem Escapes.not_isTold (escapes : Escapes s session e) : ¬ e.IsTold := by
  cases escapes with
  | unread h => exact h.not_isTold
  | refused => exact Failure.not_isTold_refused _
  | endless => exact Failure.not_isTold_overflow

/-- An order fails without being told exactly where its diagnosis does. -/
theorem Order.run_eq_error_iff {o : Order} (ordered : s.order session.files = .ok o) :
    (∃ s', o.run session = .error e s') ∧ ¬ e.IsTold ↔
      (∃ s', o.compilation.diagnose o.context session = .error e s') ∧
        (e.IsRefusal ∨ e.IsEndless (s.timeout.map .real)) := by
  obtain ⟨speaks, waits, consistent⟩ := Order.of_order ordered
  unfold Order.run
  rw [Compilation.run_eq_conclude]
  constructor
  · rintro ⟨⟨s', failed⟩, untold⟩
    rcases bind_eq_error_iff.mp failed with failed | ⟨found, s₁, diagnosed, failed⟩
    · refine ⟨⟨s', failed⟩, ?_⟩
      rw [← waits]
      exact (Compilation.failsWith_diagnose speaks _ _ _ failed).imp_left
        fun plain => plain.resolve_left untold
    · exact absurd
        (Compilation.failsWith_conclude_standard consistent diagnosed _ _ _ failed) untold
  · rintro ⟨⟨s', failed⟩, kind⟩
    refine ⟨⟨s', bind_eq_error_iff.mpr (.inl failed)⟩, ?_⟩
    rcases kind with ⟨refusal, rfl⟩ | ⟨-, rfl⟩
    · exact Failure.not_isTold_refused refusal
    · exact Failure.not_isTold_overflow

/-- An order that is carried out in vain makes the compilation fail. -/
theorem exists_compile_of_run_error {o : Order} (ordered : s.order session.files = .ok o)
    (failed : ∃ s', o.run session = .error e s') :
    ∃ s', compile {} s (s.source.getD .here) session = .error e s' := by
  obtain ⟨s', failed⟩ := failed
  refine ⟨s', ?_⟩
  rw [compile_eq, bind_of_ok (ofExcept_eq_ok_iff.mpr ⟨ordered, rfl⟩)]
  exact bind_eq_error_iff.mpr (.inl failed)

/-- Whatever fails is told, or it escapes. -/
theorem compile_untold_iff :
    (∃ s', compile {} s (s.source.getD .here) session = .error e s') ∧ ¬ e.IsTold ↔
      Escapes s session e := by
  constructor
  · rintro ⟨⟨s', failed⟩, untold⟩
    rw [compile_eq] at failed
    rcases bind_eq_error_iff.mp failed with failed | ⟨o, s₁, loaded, failed⟩
    · exact .unread (Settings.order_eq_error_iff.mp ⟨eq_of_ofExcept failed, untold⟩)
    · obtain ⟨ordered, rfl⟩ := ofExcept_eq_ok_iff.mp loaded
      rcases bind_eq_error_iff.mp failed with failed | ⟨_, _, -, ⟨⟩⟩
      obtain ⟨⟨s', stopped⟩, ⟨refusal, rfl⟩ | ⟨late, rfl⟩⟩ :=
        (Order.run_eq_error_iff ordered).mp ⟨⟨_, failed⟩, untold⟩
      · exact .refused ordered stopped
      · exact .endless ordered late stopped
  · intro escapes
    refine ⟨?_, escapes.not_isTold⟩
    cases escapes with
    | unread h =>
      obtain ⟨unloaded, -⟩ := Settings.order_eq_error_iff.mpr h
      obtain ⟨s', failed⟩ := exists_ofExcept_eq_error unloaded session
      exact ⟨s', (compile_eq s session).trans (bind_eq_error_iff.mpr (.inl failed))⟩
    | refused ordered h =>
      exact exists_compile_of_run_error ordered
        ((Order.run_eq_error_iff ordered).mpr ⟨⟨_, h⟩, .inl ⟨_, rfl⟩⟩).1
    | endless ordered late h =>
      exact exists_compile_of_run_error ordered
        ((Order.run_eq_error_iff ordered).mpr ⟨⟨_, h⟩, .inr ⟨late, rfl⟩⟩).1

theorem code_failed_of_isTold (told : e.IsTold) : (failed e).code = .ok 2 := by
  rcases told with ⟨f, rfl⟩ | about
  · rfl
  · cases e <;> first | rfl | cases about

theorem code_failed_of_not_isTold (untold : ¬ e.IsTold) : (failed e).code = .error e := by
  unfold failed
  split
  · exact absurd (Failure.isTold_fault _) untold
  · split
    · next about _ => exact absurd (.inr about) untold
    · rfl

/-! What is printed about an outcome. -/

def lines (c : Context) (o : Outcome) : List (Except Failure String) :=
  (o.errors.map fun d => d.text.mapError .ofNumber) ++
    if o.success then [.ok s!"Compiled {c.sourceFile.text} in 0ms"] else []

theorem print_append (first second : List (Except Failure String)) :
    (print (first ++ second)).2 = (print first).2.bind fun _ => (print second).2 := by
  induction first with
  | nil => rfl
  | cons line rest ih =>
    cases line with
    | error e => rfl
    | ok text =>
      simp only [List.cons_append, print]
      split
      · rfl
      · exact ih

theorem print_eq_ok_iff {all : List (Except Failure String)} :
    (print all).2 = .ok () ↔ ∀ line ∈ all, ∃ text, line = .ok text ∧ Text.IsEncodable text := by
  induction all with
  | nil => simp [print]
  | cons line rest ih =>
    rw [List.forall_mem_cons, ← ih]
    cases line with
    | error e => simp [print]
    | ok text =>
      simp only [print, Except.ok.injEq, exists_eq_left', ←
        Utf8.unencodable?_eq_none_iff_isEncodable]
      split <;> simp [*]

/-- Every line about the outcome has an encoding, or none is asked for. -/
def IsPrintable (s : Settings) (c : Context) (o : Outcome) : Prop :=
  s.json = true ∨ (∀ d ∈ o.errors, ∃ text, d.text = .ok text ∧ Text.IsEncodable text) ∧
    (o.errors = [] → Text.IsEncodable c.sourceFile.text)

theorem print_lines_eq_ok_iff {c : Context} {o : Outcome} (plain : s.json = false) :
    (print (lines c o)).2 = .ok () ↔ IsPrintable s c o := by
  have marks : Text.IsEncodable "Compiled " ∧ Text.IsEncodable " in 0ms" := by decide
  have clean : o.success = true ↔ o.errors = [] := List.isEmpty_iff
  have last : (∀ line ∈ if o.success then
        [(.ok s!"Compiled {c.sourceFile.text} in 0ms" : Except Failure String)] else [],
      ∃ text, line = .ok text ∧ Text.IsEncodable text) ↔
        (o.errors = [] → Text.IsEncodable c.sourceFile.text) := by
    rw [← clean]
    cases o.success <;> simp [toString, marks]
  rw [print_eq_ok_iff, lines, List.forall_mem_append, last, List.forall_mem_map, IsPrintable, plain]
  simp only [Except.mapError_eq_ok_iff, Bool.false_eq_true, false_or]

theorem code_printed (s : Settings) (c : Context) (o : Outcome) :
    (printed s c o).code = if s.json then .ok (if o.success then 0 else 1)
      else (print (lines c o)).2.map fun _ => if o.success then 0 else 1 := by
  unfold printed
  cases s.json with
  | true => rfl
  | false =>
    rw [lines, print_append]
    dsimp only [Bool.false_eq_true, if_false]
    cases print (o.errors.map fun d => d.text.mapError .ofNumber) with
    | mk output done => cases done <;> rfl

def Sticks (s : Settings) (session : Session) (e : Failure) : Prop :=
  ∃ c o s', compile {} s (s.source.getD .here) session = .ok (c, o) s' ∧ s.json = false ∧
    (print (lines c o)).2 = .error e

/-- The exit code tells how a compilation went, unless its failure escapes or its outcome is not
printed. -/
structure Reports (s : Settings) (session : Session) (code : Except Failure Nat) : Prop where
  /-- Zero stands for an outcome without errors. -/
  clean : code = .ok 0 ↔ ∃ c o s',
    compile {} s (s.source.getD .here) session = .ok (c, o) s' ∧ o.errors = [] ∧ IsPrintable s c o
  /-- One stands for an outcome with errors. -/
  errors : code = .ok 1 ↔ ∃ c o s',
    compile {} s (s.source.getD .here) session = .ok (c, o) s' ∧ o.errors ≠ [] ∧ IsPrintable s c o
  /-- Two stands for a failure that is told. -/
  told : code = .ok 2 ↔ ∃ e s',
    compile {} s (s.source.getD .here) session = .error e s' ∧ e.IsTold
  /-- There is no exit code exactly where a failure escapes or a line cannot be printed. -/
  escaped : ∀ e, code = .error e ↔ Escapes s session e ∨ Sticks s session e
  bounded : ∀ n, code = .ok n → n < 3

theorem reports_printed {c : Context} {o : Outcome} {s' : Session}
    (run : compile {} s (s.source.getD .here) session = .ok (c, o) s') :
    Reports s session (printed s c o).code := by
  have untold := @compile_untold_iff s session
  have clean : o.success = true ↔ o.errors = [] := List.isEmpty_iff
  have unescaped (e : Failure) : ¬ Escapes s session e := by
    rw [← untold, run]
    rintro ⟨⟨_, ⟨⟩⟩, -⟩
  by_cases printable : IsPrintable s c o
  · have done : s.json = false → (print (lines c o)).2 = .ok () :=
      fun plain => (print_lines_eq_ok_iff plain).mpr printable
    have code : (printed s c o).code = .ok (if o.errors = [] then 0 else 1) := by
      rw [code_printed]
      cases json : s.json with
      | true => simp [clean]
      | false => simp [done json, clean, Except.map]
    exact {
      clean := by simp [code, run, printable]
      errors := by simp [code, run, printable]
      told := by split at code <;> simp [code, run]
      escaped := fun e => by
        simpa [code, run, unescaped, Sticks] using fun plain => by simp [done plain]
      bounded := fun n coded => by
        cases code.symm.trans coded
        split <;> decide }
  · have plain : s.json = false := by
      rw [← Bool.not_eq_true]
      exact fun json => printable (.inl json)
    cases stuck : (print (lines c o)).2 with
    | ok _ => exact absurd ((print_lines_eq_ok_iff plain).mp stuck) printable
    | error e =>
      have code : (printed s c o).code = .error e := by
        rw [code_printed, if_neg (by simp [plain]), stuck]
        rfl
      exact {
        clean := by simp [code, run, printable]
        errors := by simp [code, run, printable]
        told := by simp [code, run]
        escaped := fun e' => by simp [code, run, unescaped, Sticks, plain, stuck]
        bounded := by simp [code] }

theorem reports_failed {s' : Session}
    (run : compile {} s (s.source.getD .here) session = .error e s') :
    Reports s session (failed e).code := by
  have escapes (e' : Failure) : Escapes s session e' ↔ e = e' ∧ ¬ e.IsTold := by
    rw [← compile_untold_iff, run]
    constructor
    · rintro ⟨⟨_, ⟨⟩⟩, untold⟩
      exact ⟨rfl, untold⟩
    · rintro ⟨rfl, untold⟩
      exact ⟨⟨s', rfl⟩, untold⟩
  have printed (e' : Failure) : ¬ Sticks s session e' := by
    rintro ⟨_, _, _, done, -⟩
    cases run.symm.trans done
  by_cases told : e.IsTold
  · have code := code_failed_of_isTold told
    exact {
      clean := by simp [code, run]
      errors := by simp [code, run]
      told := by simp [code, run, told]
      escaped := fun e' => by simp [code, escapes, printed, told]
      bounded := by simp [code] }
  · have code := code_failed_of_not_isTold told
    exact {
      clean := by simp [code, run]
      errors := by simp [code, run]
      told := by simp [code, run, told]
      escaped := fun e' => by simp [code, escapes, printed, told]
      bounded := by simp [code] }

theorem reports_runSettings (given : s.config ≠ none ∨ s.source ≠ none) (session : Session) :
    Reports s session (runSettings {} s session).1.code := by
  unfold runSettings
  split
  · next noConfig noSource => simp [noConfig, noSource] at given
  · split
    · next run => exact reports_printed run
    · next run => exact reports_failed run

def begun (s : Settings) (session : Session) : Session :=
  if s.verbose then { session with journal := session.journal ++ [.redirected .debug] } else session

/-- Whatever the words, the files and the processes: the exit code of a command line that asks for a
page tells how the compilation went, and there is none exactly where a failure escapes. -/
theorem reports_run {words : List String} (parsed : parse (Registry.names {}) words = .ok s)
    (given : s.config ≠ none ∨ s.source ≠ none) (session : Session) :
    Reports s (begun s session) (run {} words session).1.code := by
  have started : run {} words session = runSettings {} s (begun s session) := by
    unfold run
    rw [parsed]
    rfl
  rw [started]
  exact reports_runSettings given _

def blockedWords : List String := ["A.java", "--scratch-dir", "out"]

def blockedSettings : Settings :=
  { source := some (.ofText "A.java"), scratchDir := some (.ofText "out") }

/-- There is a compiler, but a file stands where the scratch directory goes. -/
def blocked : Session :=
  { files := {
      entries := [(["javac"], .file [] true), (["tmp"], .directory), (["out"], .file [] false)]
      current := [] }
    environment := [("PATH", "/")] }

theorem parse_blockedWords : parse (Registry.names {}) blockedWords = .ok blockedSettings := by
  decide +kernel

theorem reports_run_blocked :
    parse (Registry.names {}) blockedWords = .ok blockedSettings ∧
      (blockedSettings.config ≠ none ∨ blockedSettings.source ≠ none) ∧
      Reports blockedSettings (begun blockedSettings blocked)
        (run {} blockedWords blocked).1.code :=
  ⟨parse_blockedWords, .inr nofun, reports_run parse_blockedWords (.inr nofun) blocked⟩

theorem exists_run_without_code :
    ¬ ∀ (words : List String) (s : Settings) (session : Session),
      parse (Registry.names {}) words = .ok s → (s.config ≠ none ∨ s.source ≠ none) →
      ∃ n, (run {} words session).1.code = .ok n := by
  intro every
  obtain ⟨n, coded⟩ := every _ _ blocked parse_blockedWords (.inr nofun)
  have escapes : (run {} blockedWords blocked).1.code.isOk = false := by decide +kernel
  rw [coded] at escapes
  cases escapes

end CommandLine
end PageBuild
