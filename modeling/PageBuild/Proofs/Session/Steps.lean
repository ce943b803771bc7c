import PageBuild.Proofs.Session.Endings

/-! Steps. The journal of a session tells which steps of a build were entered and which processes
were started, both in their order. -/
namespace PageBuild

open Session

def Event.stage? : Event → Option Stage
  | .entered stage => some stage
  | _ => none

def Event.launch? : Event → Option Launch
  | .launched launch => some launch
  | _ => none

namespace Session

variable {α β γ : Type}

def stages (s : Session) : List Stage := s.journal.filterMap (·.stage?)

def launches (s : Session) : List Launch := s.journal.filterMap (·.launch?)

theorem steady_stages : Steady stages :=
  ⟨fun _ _ => rfl, fun _ _ => rfl, fun s level text => by simp [stages, Event.stage?]⟩

theorem steady_launches : Steady launches :=
  ⟨fun _ _ => rfl, fun _ _ => rfl, fun s level text => by simp [launches, Event.launch?]⟩

def entered (s : Session) (stage : Stage) : Session :=
  { s with journal := s.journal ++ [.entered stage] }

@[simp] theorem stages_entered (s : Session) (stage : Stage) :
    (s.entered stage).stages = s.stages ++ [stage] := by
  simp [entered, stages, Event.stage?]

@[simp] theorem launches_entered (s : Session) (stage : Stage) :
    (s.entered stage).launches = s.launches := by
  simp [entered, launches, Event.launch?]

@[simp] theorem stages_started (s : Session) (launch : Launch) :
    (s.started launch).stages = s.stages := by
  simp [started, stages, Event.stage?]

@[simp] theorem launches_started (s : Session) (launch : Launch) :
    (s.started launch).launches = s.launches ++ [launch] := by
  simp [started, launches, Event.launch?]

/-- A successful action adds a list to what is seen of a session; a failed one adds the start of
that list. -/
def Adds (view : Session → List β) (full : List β) (x : Action α) : Prop :=
  (∀ s a s', x s = .ok a s' → view s' = view s ++ full) ∧
    ∀ s e s', x s = .error e s' → ∃ part, part <+: full ∧ view s' = view s ++ part

variable {view : Session → List β} {first second : List β}

theorem Keeps.adds {x : Action α} (h : Keeps view x) : Adds view [] x := by
  constructor
  · intro s a s' run
    rw [h.of_ok run, List.append_nil]
  · intro s e s' run
    exact ⟨[], List.prefix_rfl, by rw [h.of_error run, List.append_nil]⟩

theorem Adds.after {x : Action α} {full : List β} (hx : Adds view full x) (s : Session) :
    ∃ part, part <+: full ∧ view (after x s) = view s ++ part ∧
      ∀ a s', x s = .ok a s' → part = full := by
  cases run : x s with
  | ok a s' =>
    rw [after_of_ok run]
    exact ⟨full, List.prefix_rfl, hx.1 _ _ _ run, fun _ _ _ => rfl⟩
  | error e s' =>
    rw [after_of_error run]
    obtain ⟨part, start, added⟩ := hx.2 _ _ _ run
    exact ⟨part, start, added, fun _ _ ok => (nomatch ok)⟩

theorem Adds.bind {x : Action α} {f : α → Action γ} (hx : Adds view first x)
    (hf : ∀ a, Adds view second (f a)) : Adds view (first ++ second) (x >>= f) := by
  constructor
  · intro s c s' run
    obtain ⟨a, s₁, hfirst, hsecond⟩ := bind_eq_ok_iff.mp run
    rw [(hf a).1 _ _ _ hsecond, hx.1 _ _ _ hfirst, List.append_assoc]
  · intro s e s' run
    cases hfirst : x s with
    | ok a s₁ =>
      rw [bind_of_ok hfirst] at run
      obtain ⟨part, start, added⟩ := (hf a).2 _ _ _ run
      refine ⟨first ++ part, (List.prefix_append_right_inj first).mpr start, ?_⟩
      rw [added, hx.1 _ _ _ hfirst, List.append_assoc]
    | error e₁ s₁ =>
      rw [bind_of_error hfirst] at run
      cases run
      obtain ⟨part, start, added⟩ := hx.2 _ _ _ hfirst
      exact ⟨part, start.trans (List.prefix_append first second), added⟩

/-- From a session on, a successful action starts one process, which is of the given kind; a failed
one may have started it, too. -/
def StartsOne (kind : Launch → Prop) (x : Action α) (s : Session) : Prop :=
  (∀ a s', x s = .ok a s' → ∃ launch, kind launch ∧ s'.launches = s.launches ++ [launch]) ∧
    ∀ e s', x s = .error e s' → s'.launches = s.launches ∨
      ∃ launch, kind launch ∧ s'.launches = s.launches ++ [launch]

variable {kind : Launch → Prop} {s : Session}

theorem StartsOne.after {x : Action α} (hx : StartsOne kind x s) :
    (after x s).launches = s.launches ∧ (∀ a s', x s ≠ .ok a s') ∨
      ∃ launch, kind launch ∧ (after x s).launches = s.launches ++ [launch] := by
  cases run : x s with
  | ok a s' =>
    rw [after_of_ok run]
    exact .inr (hx.1 a s' run)
  | error e s' =>
    rw [after_of_error run]
    rcases hx.2 e s' run with kept | started
    · exact .inl ⟨kept, fun _ _ ok => (nomatch ok)⟩
    · exact .inr started

theorem StartsOne.after_keeps {x : Action α} {f : α → Action γ} (hx : Keeps launches x)
    (hf : ∀ a s₁, x s = .ok a s₁ → StartsOne kind (f a) s₁) : StartsOne kind (x >>= f) s := by
  cases hfirst : x s with
  | ok a s₁ =>
    unfold StartsOne
    rw [bind_of_ok hfirst, ← hx.of_ok hfirst]
    exact hf a s₁ hfirst
  | error e₁ s₁ =>
    unfold StartsOne
    rw [bind_of_error hfirst, ← hx.of_error hfirst]
    refine ⟨fun a s' run => (nomatch run), fun e s' run => ?_⟩
    cases run
    exact .inl rfl

theorem StartsOne.before_keeps {x : Action α} {f : α → Action γ} (hx : StartsOne kind x s)
    (hf : ∀ a, Keeps launches (f a)) : StartsOne kind (x >>= f) s := by
  cases hfirst : x s with
  | ok a s₁ =>
    unfold StartsOne
    rw [bind_of_ok hfirst]
    refine ⟨fun c s' run => ?_, fun e s' run => .inr ?_⟩
    · rw [(hf a).of_ok run]
      exact hx.1 a s₁ hfirst
    · rw [(hf a).of_error run]
      exact hx.1 a s₁ hfirst
  | error e₁ s₁ =>
    unfold StartsOne
    rw [bind_of_error hfirst]
    refine ⟨fun c s' run => (nomatch run), fun e s' run => ?_⟩
    cases run
    exact hx.2 e₁ s₁ hfirst

/-- What starts no process has to succeed before one can be started. -/
theorem exists_ok_of_launched {x : Action α} {f : α → Action γ} {launch : Launch}
    (keeps : Keeps launches x)
    (started : (after (x >>= f) s).launches = s.launches ++ [launch]) :
    ∃ a s₁, x s = .ok a s₁ ∧ (x >>= f) s = f a s₁ := by
  cases run : x s with
  | ok a s₁ => exact ⟨a, s₁, rfl, bind_of_ok run⟩
  | error e s₁ =>
    rw [after_of_error (bind_of_error run), keeps.of_error run] at started
    simp at started

end Session
end PageBuild
