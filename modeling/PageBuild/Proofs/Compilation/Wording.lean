import PageBuild.Proofs.Messages.Overrides
import PageBuild.Proofs.Resolution.Conservation
import PageBuild.Proofs.Session.Failures

/-! The words of messages. Whatever reports an error ends alike with any two bundles, but for the
words of its faults, unless a message cannot be said: then its failure takes the place of the
error. -/
namespace PageBuild

def Fault.unworded (f : Fault) : Fault := { f with message := "" }

namespace Failure

def unworded : Failure → Failure
  | .fault f => .fault f.unworded
  | e => e

end Failure

namespace Messages

open Template

variable {α β γ δ : Type} {m m' : Messages} {view : α → γ} {r r' : Except Failure α}

/-- An outcome without words; of a value, there is what a view shows. -/
def ending (view : α → γ) : Except Failure α → Except Failure γ
  | .ok a => .ok (view a)
  | .error e => .error e.unworded

theorem exists_of_ending (h : ending view r = ending view r') :
    (∃ a a', r = .ok a ∧ r' = .ok a' ∧ view a = view a') ∨
      ∃ e e', r = .error e ∧ r' = .error e' ∧ e.unworded = e'.unworded := by
  cases r with
  | ok a =>
    cases r' with
    | ok a' => exact .inl ⟨a, a', rfl, rfl, Except.ok.inj h⟩
    | error e => cases h
  | error e =>
    cases r' with
    | ok a => cases h
    | error e' => exact .inr ⟨e, e', rfl, rfl, Except.error.inj h⟩

/-- A message of the bundle cannot be said, and that is the failure. -/
def Mute (m : Messages) (r : Except Failure α) : Prop :=
  ∃ key arguments e, m.say key arguments = .error e ∧ r = .error e

theorem Mute.bind (mute : m.Mute r) (f : α → Except Failure β) : m.Mute (r >>= f) := by
  obtain ⟨key, arguments, e, unsaid, rfl⟩ := mute
  exact ⟨key, arguments, e, unsaid, rfl⟩

/-- Two outcomes with two bundles end alike, or a message of a bundle cannot be said. -/
def Alike (view : α → γ) (m m' : Messages) (r r' : Except Failure α) : Prop :=
  ending view r = ending view r' ∨ m.Mute r ∨ m'.Mute r'

theorem alike_refl (r : Except Failure α) : Alike view m m' r r := .inl rfl

/-- A failure hides what would have followed. -/
theorem Alike.bind {shown : β → δ} {f f' : α → Except Failure β} (h : Alike view m m' r r')
    (later : ∀ a a', view a = view a' → Alike shown m m' (f a) (f' a')) :
    Alike shown m m' (r >>= f) (r' >>= f') := by
  rcases h with same | mute | mute
  · rcases exists_of_ending same with ⟨a, a', rfl, rfl, seen⟩ | ⟨e, e', rfl, rfl, unworded⟩
    · exact later a a' seen
    · exact .inl (congrArg Except.error unworded)
  · exact .inr (.inl (mute.bind f))
  · exact .inr (.inr (mute.bind f'))

end Messages

/-! Actions that speak with a bundle. -/

namespace Session

variable {α β γ : Type} {view : α → γ} {shown : β → γ} {s : Session}

def outcome : EStateM.Result Failure Session α → Except Failure α
  | .ok a _ => .ok a
  | .error e _ => .error e

/-- With any two bundles, the action ends alike but for words, unless a message cannot be said. -/
def Reworded (view : α → γ) (x : Messages → Action α) : Prop :=
  ∀ m m' s, Messages.Alike view m m' (outcome (x m s)) (outcome (x m' s))

/-- What comes before the first message is the same with every bundle. -/
theorem Reworded.after {x : Action α} {f : Messages → α → Action β}
    (h : ∀ a, Reworded shown fun m => f m a) : Reworded shown fun m => x >>= f m := by
  intro m m' s
  change Messages.Alike shown m m' (outcome ((x >>= f m) s)) (outcome ((x >>= f m') s))
  cases run : x s with
  | ok a s₁ =>
    rw [bind_of_ok run, bind_of_ok run]
    exact h a m m' s₁
  | error e s₁ =>
    rw [bind_of_error run, bind_of_error run]
    exact Messages.alike_refl _

end Session

open Messages Session

namespace Metadata

variable {m m' : Messages}

def settled : List Finding × Option Failure → Except Failure (List ErrorDetail)
  | (found, none) => .ok (found.filterMap (·.detail?))
  | (_, some e) => .error e

end Metadata

namespace Compilation

def warned (x : Except Failure Fault) : Action (Option Fault) := do
  let f ← Session.ofExcept x
  Session.log .warning f.message
  return some f

end Compilation

namespace Handle

end Handle
namespace Messages

open Template

end Messages
end PageBuild
