import PageBuild.Session

/-! Runs of actions, and outcomes of computations without a session. A run that succeeds is made of
runs that succeed; and what every step of an action keeps is kept by the action, however it ends. -/
namespace PageBuild

namespace Except

variable {ε α β : Type} {x : Except ε α} {f : α → Except ε β}

theorem bind_eq_ok_iff {b : β} : x >>= f = .ok b ↔ ∃ a, x = .ok a ∧ f a = .ok b := by
  cases x with
  | ok a => exact ⟨fun h => ⟨a, rfl, h⟩, fun ⟨_, same, h⟩ => by cases same; exact h⟩
  | error e => exact iff_of_false (fun h => nomatch h) fun ⟨_, same, _⟩ => nomatch same

theorem bind_eq_error_iff {e : ε} :
    x >>= f = .error e ↔ x = .error e ∨ ∃ a, x = .ok a ∧ f a = .error e := by
  cases x with
  | ok a =>
    constructor
    · exact fun h => .inr ⟨a, rfl, h⟩
    · rintro (⟨⟨⟩⟩ | ⟨_, ⟨⟩, h⟩)
      exact h
  | error e' =>
    constructor
    · rintro ⟨⟩
      exact .inl rfl
    · rintro (⟨⟨⟩⟩ | ⟨_, ⟨⟩, -⟩)
      rfl

theorem mapM_cons_eq_ok_iff {a : α} {as : List α} {bs : List β} :
    (a :: as).mapM f = .ok bs ↔
      ∃ b later, f a = .ok b ∧ as.mapM f = .ok later ∧ bs = b :: later := by
  simp only [List.mapM_cons, bind_eq_ok_iff]
  constructor
  · rintro ⟨b, first, later, rest, ⟨⟩⟩
    exact ⟨b, later, first, rest, rfl⟩
  · rintro ⟨b, later, first, rest, rfl⟩
    exact ⟨b, first, later, rest, rfl⟩

theorem exists_mapM_eq_ok_iff {as : List α} :
    (∃ bs, as.mapM f = .ok bs) ↔ ∀ a ∈ as, ∃ b, f a = .ok b := by
  induction as with
  | nil => simp [pure, Except.pure]
  | cons a as ih =>
    simp only [mapM_cons_eq_ok_iff, List.forall_mem_cons, ← ih]
    constructor
    · rintro ⟨_, b, later, first, rest, -⟩
      exact ⟨⟨b, first⟩, later, rest⟩
    · rintro ⟨⟨b, first⟩, later, rest⟩
      exact ⟨_, b, later, first, rest, rfl⟩

theorem exists_of_mem_mapM {as : List α} {bs : List β} (h : as.mapM f = .ok bs) {b : β}
    (hb : b ∈ bs) : ∃ a ∈ as, f a = .ok b := by
  induction as generalizing bs with
  | nil =>
    cases h
    simp at hb
  | cons a as ih =>
    obtain ⟨b', later, first, rest, rfl⟩ := mapM_cons_eq_ok_iff.mp h
    rcases List.mem_cons.mp hb with rfl | hb
    · exact ⟨a, List.mem_cons_self, first⟩
    · obtain ⟨a', ha, read⟩ := ih rest hb
      exact ⟨a', List.mem_cons_of_mem _ ha, read⟩

theorem mapError_eq_ok_iff {ε' : Type} {g : ε → ε'} {a : α} :
    x.mapError g = .ok a ↔ x = .ok a := by
  cases x with
  | ok a' => constructor <;> (rintro ⟨⟩; rfl)
  | error e => constructor <;> rintro ⟨⟩

theorem mapError_eq_error_iff {ε' : Type} {g : ε → ε'} {e : ε'} :
    x.mapError g = .error e ↔ ∃ e₁, x = .error e₁ ∧ g e₁ = e := by
  cases x with
  | ok a => exact iff_of_false nofun fun ⟨_, same, _⟩ => nomatch same
  | error e₁ =>
    constructor
    · rintro ⟨⟩
      exact ⟨e₁, rfl, rfl⟩
    · rintro ⟨_, ⟨⟩, ⟨⟩⟩
      rfl

end Except

namespace Session

variable {α β γ : Type}

theorem bind_eq_ok_iff {x : Action α} {f : α → Action β} {s s' : Session} {b : β} :
    (x >>= f) s = .ok b s' ↔ ∃ a s₁, x s = .ok a s₁ ∧ f a s₁ = .ok b s' := by
  simp only [bind, EStateM.bind]
  cases x s with
  | ok a s₁ =>
    constructor
    · exact fun h => ⟨a, s₁, rfl, h⟩
    · rintro ⟨a, s₁, ⟨⟩, h⟩
      exact h
  | error e s₁ =>
    refine iff_of_false (fun h => nomatch h) ?_
    rintro ⟨a, s₁, ⟨⟩, -⟩

theorem bind_of_ok {x : Action α} {f : α → Action β} {s s₁ : Session} {a : α}
    (h : x s = .ok a s₁) : (x >>= f) s = f a s₁ := by
  simp only [bind, EStateM.bind, h]

theorem bind_of_error {x : Action α} {f : α → Action β} {s s₁ : Session} {e : Failure}
    (h : x s = .error e s₁) : (x >>= f) s = .error e s₁ := by
  simp only [bind, EStateM.bind, h]

theorem bind_eq_error_iff {x : Action α} {f : α → Action β} {s s' : Session} {e : Failure} :
    (x >>= f) s = .error e s' ↔
      x s = .error e s' ∨ ∃ a s₁, x s = .ok a s₁ ∧ f a s₁ = .error e s' := by
  cases run : x s with
  | ok a s₁ =>
    rw [bind_of_ok run]
    constructor
    · exact fun h => .inr ⟨a, s₁, rfl, h⟩
    · rintro (⟨⟨⟩⟩ | ⟨a, s₁, ⟨⟩, h⟩)
      exact h
  | error e₁ s₁ =>
    rw [bind_of_error run]
    constructor
    · rintro ⟨⟩
      exact .inl rfl
    · rintro (⟨⟨⟩⟩ | ⟨a, s₁, ⟨⟩, -⟩)
      rfl

theorem bind_congr_at {x y : Action α} {s s₁ : Session} (h : x s = y s₁) {f : α → Action β} :
    (x >>= f) s = (y >>= f) s₁ := by
  simp only [bind, EStateM.bind, h]

/-- Two runs agree if they begin alike, and go on alike from what they can begin with. -/
theorem bind_congr_ok {x y : Action α} {f g : α → Action β} {s : Session} (h : x s = y s)
    (hok : ∀ a s₁, x s = .ok a s₁ → f a s₁ = g a s₁) : (x >>= f) s = (y >>= g) s := by
  cases run : x s with
  | ok a s₁ => rw [bind_of_ok run, bind_of_ok (h.symm.trans run), hok a s₁ run]
  | error e s₁ => rw [bind_of_error run, bind_of_error (h.symm.trans run)]

theorem pure_eq_ok_iff {a b : α} {s s' : Session} :
    (pure a : Action α) s = .ok b s' ↔ a = b ∧ s = s' := by
  simp [pure, EStateM.pure]

/-- A fault is never raised without a failure. -/
theorem raise_ne_ok (f : Fault) (s s' : Session) (a : α) : raise f s ≠ .ok a s' := by
  intro h
  unfold raise at h
  split at h
  · obtain ⟨_, _, -, failed⟩ := bind_eq_ok_iff.mp h
    contradiction
  · contradiction

theorem ofExcept_eq_ok_iff {e : Except Failure α} {s s' : Session} {a : α} :
    ofExcept e s = .ok a s' ↔ e = .ok a ∧ s = s' := by
  cases e with
  | ok b => simp [ofExcept, pure_eq_ok_iff]
  | error f =>
    refine iff_of_false ?_ (by simp)
    cases f <;> first | exact raise_ne_ok _ _ _ _ | exact fun h => nomatch h

theorem ofExcept_bind (x : Except Failure α) (f : α → Except Failure β) :
    ofExcept (x >>= f) = ofExcept x >>= fun a => ofExcept (f a) := by
  cases x with
  | ok a => rfl
  | error e =>
    cases e with
    | fault fault =>
      funext s
      change raise fault s = (raise fault >>= fun a => ofExcept (f a)) s
      unfold raise
      split <;> rfl
    | _ => rfl

/-- What only adds events for one item adds those of all items, in their order, for a list. -/
theorem forM_eq_journal {f : β → Action Unit} {events : β → List Event}
    (h : ∀ item s, f item s = .ok () { s with journal := s.journal ++ events item })
    (items : List β) (s : Session) :
    items.forM f s = .ok () { s with journal := s.journal ++ items.flatMap events } := by
  induction items generalizing s with
  | nil => simp [pure, EStateM.pure]
  | cons item items ih =>
    refine bind_eq_ok_iff.mpr ⟨(), _, h item s, (ih _).trans ?_⟩
    simp

theorem forM_append_eq_ok_iff {f : β → Action Unit} {before later : List β} {s s' : Session} :
    (before ++ later).forM f s = .ok () s' ↔
      ∃ s₁, before.forM f s = .ok () s₁ ∧ later.forM f s₁ = .ok () s' := by
  induction before generalizing s with
  | nil =>
    constructor
    · exact fun h => ⟨s, rfl, h⟩
    · rintro ⟨s₁, ⟨⟩, h⟩
      exact h
  | cons item before ih =>
    constructor
    · intro h
      obtain ⟨⟨⟩, s₁, first, rest⟩ := bind_eq_ok_iff.mp h
      obtain ⟨s₂, done, last⟩ := ih.mp rest
      exact ⟨s₂, bind_eq_ok_iff.mpr ⟨(), s₁, first, done⟩, last⟩
    · rintro ⟨s₂, done, last⟩
      obtain ⟨⟨⟩, s₁, first, done⟩ := bind_eq_ok_iff.mp done
      exact bind_eq_ok_iff.mpr ⟨(), s₁, first, ih.mpr ⟨s₂, done, last⟩⟩

theorem exists_of_forM_eq_ok {f : β → Action Unit} {items : List β} {s s' : Session}
    (h : items.forM f s = .ok () s') {item : β} (member : item ∈ items) :
    ∃ s₁ s₂, f item s₁ = .ok () s₂ := by
  obtain ⟨before, later, rfl⟩ := List.append_of_mem member
  obtain ⟨s₁, -, rest⟩ := forM_append_eq_ok_iff.mp h
  obtain ⟨⟨⟩, s₂, here, -⟩ := bind_eq_ok_iff.mp rest
  exact ⟨s₁, s₂, here⟩

/-- A list fails with one of its items, after the ones before it have succeeded. -/
theorem exists_of_forM_eq_error {f : β → Action Unit} {items : List β} {s s' : Session}
    {e : Failure} (h : items.forM f s = .error e s') :
    ∃ before item later s₁, items = before ++ item :: later ∧ before.forM f s = .ok () s₁ ∧
      f item s₁ = .error e s' := by
  induction items generalizing s with
  | nil => cases h
  | cons item items ih =>
    rcases bind_eq_error_iff.mp h with first | ⟨⟨⟩, s₁, first, rest⟩
    · exact ⟨[], item, items, s, rfl, rfl, first⟩
    · obtain ⟨before, failed, later, s₂, rfl, done, here⟩ := ih rest
      exact ⟨item :: before, failed, later, s₂, rfl, bind_eq_ok_iff.mpr ⟨(), s₁, first, done⟩, here⟩

def after (x : Action α) (s : Session) : Session :=
  match x s with
  | .ok _ s' => s'
  | .error _ s' => s'

theorem after_of_ok {x : Action α} {s s' : Session} {a : α} (h : x s = .ok a s') :
    after x s = s' := by
  rw [after, h]

/-- The action leaves what is seen of a session as it is. -/
def Keeps (view : Session → γ) (x : Action α) : Prop := ∀ s, view (after x s) = view s

variable {view : Session → γ}

theorem after_congr_at {x y : Action α} {s s₁ : Session} (h : x s = y s₁) :
    after x s = after y s₁ := by
  rw [after, h, after]

theorem Keeps.of_ok {x : Action α} {s s' : Session} {a : α} (hx : Keeps view x)
    (h : x s = .ok a s') : view s' = view s := by
  rw [← after_of_ok h]
  exact hx s

theorem after_of_error {x : Action α} {s s' : Session} {e : Failure} (h : x s = .error e s') :
    after x s = s' := by
  rw [after, h]

theorem Keeps.of_error {x : Action α} {s s' : Session} {e : Failure} (hx : Keeps view x)
    (h : x s = .error e s') : view s' = view s := by
  rw [← after_of_error h]
  exact hx s

theorem keeps_pure (a : α) : Keeps view (pure a) := fun _ => rfl

theorem keeps_throw (e : Failure) : Keeps view (throw e : Action α) := fun _ => rfl

theorem keeps_get : Keeps view get := fun _ => rfl

theorem keeps_modify {change : Session → Session} (h : ∀ s, view (change s) = view s) :
    Keeps view (modify change) := h

/-- What keeps a view shows what was seen before it. -/
theorem Keeps.after_bind {x : Action α} {f : α → Action β} (hf : ∀ a, Keeps view (f a))
    (s : Session) : view (after (x >>= f) s) = view (after x s) := by
  cases run : x s with
  | ok a s₁ =>
    rw [after_congr_at (bind_of_ok run), after_of_ok run]
    exact hf a s₁
  | error e s₁ => rw [after_of_error (bind_of_error run), after_of_error run]

theorem Keeps.bind {x : Action α} {f : α → Action β} (hx : Keeps view x)
    (hf : ∀ a, Keeps view (f a)) : Keeps view (x >>= f) :=
  fun s => (Keeps.after_bind hf s).trans (hx s)

theorem keeps_forM {f : β → Action Unit} (h : ∀ item, Keeps view (f item)) (items : List β) :
    Keeps view (items.forM f) := by
  induction items with
  | nil => exact keeps_pure ()
  | cons item items ih => exact (h item).bind fun _ => ih

end Session
end PageBuild
