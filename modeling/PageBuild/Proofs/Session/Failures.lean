import PageBuild.Proofs.Handle.Running
import PageBuild.Proofs.Messages.Defaults

/-! How actions fail. What every step of an action fails with at most, the action fails with at
most. With the messages of the bundle, whatever has to do with a compiler fails with a fault, for a
value, because the operating system refuses, or for a time longer than can be waited. -/
namespace PageBuild

open Session

namespace Failure

/-- A fault, or a failure about a value: the command line tells both. -/
def IsTold (e : Failure) : Prop := (∃ f, e = .fault f) ∨ e.isAboutValue = true

def IsRefusal (e : Failure) : Prop := ∃ refusal, e = .refused refusal

def IsPlain (e : Failure) : Prop := e.IsTold ∨ e.IsRefusal

def IsEndless (timeout : Option Quantity) (e : Failure) : Prop :=
  timeout.bind Command.unwaitable? = some .overflow ∧ e = .overflow

theorem isTold_fault (f : Fault) : (fault f).IsTold := .inl ⟨f, rfl⟩

theorem isTold_value (v : ValueFault) : (value v).IsTold := .inr rfl

theorem not_isTold_refused (refusal : OsError) : ¬ (refused refusal).IsTold := by
  rintro (⟨f, ⟨⟩⟩ | about)
  cases about

theorem not_isTold_overflow : ¬ overflow.IsTold := by
  rintro (⟨f, ⟨⟩⟩ | about)
  cases about

theorem isPlain_ofPath (e : PathFault) : (ofPath e).IsPlain := by
  cases e with
  | os refusal => exact .inr ⟨refusal, rfl⟩
  | text e => exact .inl (isTold_value (.text e))

end Failure

namespace Messages

variable {α : Type} {key : MessageKey} {arguments : List Template.Value} {e : Failure}

theorem isTold_of_say (failed : ({} : Messages).say key arguments = .error e) : e.IsTold := by
  obtain ⟨m, rfl⟩ := exists_template_of_say failed
  exact .inr rfl

/-- What only says a message to fail with it fails with a fault, or for an argument. -/
theorem isTold_of_say_bind_throw {build : String → Fault}
    (failed : (do throw (.fault (build (← ({} : Messages).say key arguments))) :
      Except Failure α) = .error e) : e.IsTold := by
  rcases Except.bind_eq_error_iff.mp failed with unsaid | ⟨message, -, thrown⟩
  · exact isTold_of_say unsaid
  · exact Except.error.inj thrown ▸ Failure.isTold_fault _

end Messages

namespace Session

variable {α β : Type} {P : Failure → Prop}

def FailsWith (P : Failure → Prop) (x : Action α) : Prop := ∀ s e s', x s = .error e s' → P e

theorem FailsWith.mono {Q : Failure → Prop} {x : Action α} (hx : FailsWith P x)
    (weaker : ∀ e, P e → Q e) : FailsWith Q x := fun s e s' failed => weaker e (hx s e s' failed)

theorem failsWith_pure (a : α) : FailsWith P (pure a) := fun _ _ _ failed => nomatch failed

theorem failsWith_get : FailsWith P get := fun _ _ _ failed => nomatch failed

theorem failsWith_modify (change : Session → Session) : FailsWith P (modify change) :=
  fun _ _ _ failed => nomatch failed

theorem failsWith_throw {e : Failure} (h : P e) : FailsWith P (throw e : Action α) := by
  intro s e' s' failed
  cases failed
  exact h

/-- A later step has to be looked at only for what the earlier ones can have returned. -/
theorem FailsWith.bind {x : Action α} {f : α → Action β} (hx : FailsWith P x)
    (hf : ∀ s a s₁, x s = .ok a s₁ → FailsWith P (f a)) : FailsWith P (x >>= f) := by
  intro s e s' failed
  rcases bind_eq_error_iff.mp failed with first | ⟨a, s₁, first, second⟩
  · exact hx s e s' first
  · exact hf s a s₁ first s₁ e s' second

theorem failsWith_forM {f : β → Action Unit} {items : List β}
    (h : ∀ item ∈ items, FailsWith P (f item)) : FailsWith P (items.forM f) := by
  induction items with
  | nil => exact failsWith_pure ()
  | cons item items ih =>
    exact (h item List.mem_cons_self).bind fun _ _ _ _ =>
      ih fun later member => h later (List.mem_cons_of_mem _ member)

theorem eq_of_raise {f : Fault} {s s' : Session} {e : Failure}
    (failed : (raise f : Action α) s = .error e s') : e = .fault f := by
  unfold raise at failed
  split at failed <;> (cases failed; rfl)

theorem eq_of_ofExcept {x : Except Failure α} {s s' : Session} {e : Failure}
    (failed : ofExcept x s = .error e s') : x = .error e := by
  cases x with
  | ok a => cases failed
  | error e' =>
    cases e' with
    | fault f => rw [eq_of_raise failed]
    | _ => cases failed; rfl

theorem exists_ofExcept_eq_error {x : Except Failure α} {e : Failure} (h : x = .error e)
    (s : Session) : ∃ s', ofExcept x s = .error e s' := by
  subst h
  cases e with
  | fault f =>
    change ∃ s', raise f s = _
    unfold raise
    split <;> exact ⟨_, rfl⟩
  | _ => exact ⟨s, rfl⟩

theorem failsWith_ofExcept {x : Except Failure α} (h : ∀ e, x = .error e → P e) :
    FailsWith P (ofExcept x) :=
  fun _ e _ failed => h e (eq_of_ofExcept failed)

theorem failsWith_change (c : FileTree.Change α) : FailsWith Failure.IsPlain (change c) := by
  intro s e s' failed
  unfold change at failed
  split at failed
  · cases failed
  · cases failed
    exact Failure.isPlain_ofPath _

/-- A refusal is an answer to an attempt, and no failure of it. -/
theorem failsWith_attempt (c : FileTree.Change Unit) : FailsWith Failure.IsTold (attempt c) := by
  intro s e s' failed
  unfold attempt at failed
  split at failed
  · cases failed
  · cases failed
  · cases failed
    exact Failure.isTold_value _

theorem failsWith_ask (question : FileTree → Except OsError α) :
    FailsWith Failure.IsPlain (ask question) := by
  refine failsWith_get.bind fun _ s _ _ => ?_
  split
  · exact failsWith_pure _
  · exact failsWith_throw (.inr ⟨_, rfl⟩)

end Session

/-! A backend and its compiler. -/

namespace Handle

variable {h : Handle}

theorem failsWith_open (c : Caller) : FailsWith Failure.IsPlain (Handle.open c) := by
  refine FailsWith.bind ?_ fun _ _ _ _ => failsWith_pure _
  refine failsWith_get.bind fun _ _ _ _ => ?_
  refine (failsWith_change _).bind fun _ _ _ _ => ?_
  exact (failsWith_modify _).bind fun _ _ _ _ => failsWith_pure _

theorem failsWith_requireOpen (h : Handle) : FailsWith Failure.IsPlain h.requireOpen := by
  unfold requireOpen
  split
  · intro s e s' failed
    rw [eq_of_raise failed]
    exact .inl (Failure.isTold_fault _)
  · exact failsWith_pure _

theorem failsWith_setLocation (h : Handle) (l : Location) (paths : List PathName) :
    FailsWith Failure.IsPlain (h.setLocation l paths) :=
  (h.failsWith_requireOpen).bind fun _ _ _ _ => by cases l <;> exact failsWith_pure _

theorem failsWith_close (h : Handle) : FailsWith Failure.IsPlain h.close := by
  unfold close
  split
  · exact failsWith_pure _
  · refine FailsWith.bind ?_ fun _ _ _ _ => failsWith_pure _
    refine (failsWith_ask _).bind fun _ there _ _ => ?_
    split
    · exact failsWith_modify _
    · exact failsWith_pure _

/-- A command is never empty: the encoding is among its arguments. -/
theorem ne_nil_of_prepare {options sources command : List String} {s s' : Session}
    (prepared : h.prepare (h.arguments options sources) s = .ok command s') : command ≠ [] := by
  unfold prepare at prepared
  split at prepared
  · obtain ⟨_, s₁, -, hpure⟩ := bind_eq_ok_iff.mp prepared
    rw [← (pure_eq_ok_iff.mp hpure).1]
    simp
  · rw [← (pure_eq_ok_iff.mp prepared).1]
    simp [arguments]

theorem failsWith_prepare (h : Handle) (arguments : List String) :
    FailsWith Failure.IsPlain (h.prepare arguments) := by
  unfold prepare
  split
  · exact (failsWith_change _).bind fun _ _ _ _ => failsWith_pure _
  · exact failsWith_pure _

/-- A time that cannot be waited for is too long, or no number. -/
theorem unwaitable?_cases {time : Quantity} {e : Failure}
    (unwaitable : Command.unwaitable? time = some e) : e = .overflow ∨ e = .value .noNumber := by
  unfold Command.unwaitable? at unwaitable
  grind

theorem isPlain_or_isEndless_of_ended {command : List String} {timeout : Option Quantity}
    {ending : Ending} {e : Failure} (named : command ≠ [])
    (failed : Command.ended command timeout ending = .error e) :
    e.IsPlain ∨ e.IsEndless timeout := by
  obtain ⟨program, rest, rfl⟩ := List.exists_cons_of_ne_nil named
  induction ending with
  | exited code output errors =>
    unfold Command.ended at failed
    split at failed
    · next e' unwaitable =>
      cases failed
      obtain ⟨time, rfl, late⟩ := Option.bind_eq_some_iff.mp unwaitable
      rcases unwaitable?_cases late with rfl | rfl
      · exact .inr ⟨unwaitable, rfl⟩
      · exact .inl (.inl (Failure.isTold_value _))
    · cases failed
  | timedOut =>
    obtain unwritten | ⟨_, -, ⟨⟩⟩ := Except.bind_eq_error_iff.mp failed
    obtain ⟨_, -, rfl⟩ := Except.mapError_eq_error_iff.mp unwritten
    exact .inl (.inl (Failure.isTold_value _))
  | notStarted => cases failed
  | notExecutable errno =>
    unfold Command.ended at failed
    dsimp only at failed
    split at failed
    · cases failed
    · exact .inl (.inr ⟨_, (Except.error.inj failed).symm⟩)
  | timed time ending ih =>
    obtain failed | ⟨c, -, failed⟩ := Except.bind_eq_error_iff.mp failed
    · exact ih failed
    · unfold Completion.checkTime at failed
      split at failed
      · cases failed
        exact .inl (.inl (Failure.isTold_value _))
      · cases failed

theorem isPlain_or_isEndless_of_complete {command : List String} {timeout : Option Quantity}
    {ending : Ending} {e : Failure} (named : command ≠ [])
    (failed : Command.complete command timeout ending = .error e) :
    e.IsPlain ∨ e.IsEndless timeout := by
  unfold Command.complete at failed
  split at failed
  · cases failed
    exact .inl (.inl (Failure.isTold_value _))
  · exact isPlain_or_isEndless_of_ended named failed

theorem isTold_of_fault (hmessages : h.messages = {}) {key : MessageKey} {code about : String}
    {c : Completion} {e : Failure} (failed : h.fault key code c about = .error e) : e.IsTold := by
  unfold fault at failed
  rw [hmessages] at failed
  exact Messages.isTold_of_say_bind_throw failed

theorem isTold_of_judge (hmessages : h.messages = {}) {c : Completion} {e : Failure}
    (failed : h.judge c = .error e) : e.IsTold := by
  unfold judge at failed
  split at failed
  · exact isTold_of_fault hmessages failed
  · split at failed
    · exact Except.error.inj failed ▸ Failure.isTold_value _
    · dsimp only at failed
      split at failed
      · exact isTold_of_fault hmessages failed
      · split at failed
        · exact isTold_of_fault hmessages failed
        · cases failed

theorem failsWith_compile (hmessages : h.messages = {}) (options sources : List String) :
    FailsWith (fun e => e.IsPlain ∨ e.IsEndless h.timeout) (h.compile options sources) := by
  refine ((failsWith_requireOpen h).mono fun _ => .inl).bind fun _ _ _ _ => ?_
  refine ((failsWith_prepare h _).mono fun _ => .inl).bind fun _ command _ prepared => ?_
  have named := ne_nil_of_prepare prepared
  refine FailsWith.bind ?_ fun _ completion _ _ => ?_
  · intro s e s' failed
    rw [Command.run_eq] at failed
    exact isPlain_or_isEndless_of_complete named (eq_of_ofExcept failed)
  · exact failsWith_ofExcept fun e failed => .inl (.inl (isTold_of_judge hmessages failed))

end Handle

namespace Backend

variable {b : Backend}

theorem failsWith_acquire (hmessages : b.messages = {}) (encoding : String) :
    FailsWith Failure.IsPlain (b.acquire encoding) := by
  have unavailable : FailsWith Failure.IsPlain (Session.ofExcept b.notFound) := by
    refine failsWith_ofExcept fun e failed => .inl ?_
    unfold notFound at failed
    rw [hmessages] at failed
    exact Messages.isTold_of_say_bind_throw failed
  refine FailsWith.bind ?_ fun _ command _ _ => ?_
  · refine failsWith_get.bind fun _ s _ _ => ?_
    split
    · exact failsWith_pure _
    · exact failsWith_throw (.inr ⟨_, rfl⟩)
  · split
    · exact unavailable
    · exact unavailable
    · exact Handle.failsWith_open _

/-- Handles speak with the messages of their backend, and wait as long as it does. -/
theorem of_acquire {encoding : String} {h : Handle} {s s' : Session}
    (hacquire : b.acquire encoding s = .ok h s') :
    h.messages = b.messages ∧ h.timeout = b.timeout := by
  obtain ⟨command, opened⟩ := open_of_acquire hacquire
  rw [(Handle.isFresh_of_open opened).2]
  exact ⟨rfl, rfl⟩

end Backend
end PageBuild
