import PageBuild.Proofs.FileTree.Changes

/-! Files that are written at known places. Directories may be made for them, and all other files
stay as they are. Only a path that cannot be passed on is refused for its text. -/
namespace PageBuild.FileTree

variable {t t' t'' : FileTree} {place : Place} {places more : List Place} {path : String}
  {p : PathName} {content : List UInt8} {α β : Type}

/-- The second tree is the first one with directories, and with files at some places. -/
structure Writes (places : List Place) (t t' : FileTree) : Prop where
  current : t'.current = t.current
  leads : ∀ path place, t.resolve path = .ok place → t'.resolve path = .ok place
  kept : ∀ place entry, place ∉ places → t.entry? place = some entry →
    t'.entry? place = some entry
  directories : ∀ place, t.entry? place = some .directory → t'.entry? place = some .directory
  made : ∀ place entry, place ∉ places → t'.entry? place = some entry →
    t.entry? place = some entry ∨ entry = .directory

namespace Writes

theorem refl (places : List Place) (t : FileTree) : Writes places t t :=
  ⟨rfl, fun _ _ h => h, fun _ _ _ h => h, fun _ h => h, fun _ _ _ h => .inl h⟩

theorem mono (h : Writes places t t') (subset : places ⊆ more) : Writes more t t' :=
  ⟨h.current, h.leads, fun place entry apart => h.kept place entry (mt (@subset place) apart),
    h.directories, fun place entry apart => h.made place entry (mt (@subset place) apart)⟩

theorem trans (first : Writes places t t') (second : Writes places t' t'') :
    Writes places t t'' := by
  refine ⟨second.current.trans first.current,
    fun path place led => second.leads path place (first.leads path place led),
    fun place entry apart there =>
      second.kept place entry apart (first.kept place entry apart there),
    fun place there => second.directories place (first.directories place there),
    fun place entry apart there => ?_⟩
  rcases second.made place entry apart there with old | directory
  · exact first.made place entry apart old
  · exact .inr directory

theorem of_makes (h : Makes p t t') : Writes [] t t' :=
  ⟨h.keeps.current, fun _ _ => h.keeps.resolve, fun place entry _ => h.keeps.kept place entry,
    fun place => h.keeps.kept place .directory,
    fun place entry _ there => (h.made place entry there).imp_right And.left⟩

theorem put (bare : t.entry? place ≠ some .directory) (entry : Entry) :
    Writes [place] t (t.put place entry) := by
  refine ⟨rfl, fun path found => resolve_put entry bare, fun other found apart there => ?_,
    fun other there => ?_, fun other found apart there => .inl ?_⟩
  · rwa [entry?_put_other entry (List.ne_of_not_mem_cons apart)]
  · have apart : other ≠ place := by
      rintro rfl
      exact bare there
    rwa [entry?_put_other entry apart]
  · rwa [entry?_put_other entry (List.ne_of_not_mem_cons apart)] at there

/-- All other files are as they were. -/
theorem file_iff (h : Writes places t t') (apart : place ∉ places) {executable : Bool} :
    t'.entry? place = some (.file content executable) ↔
      t.entry? place = some (.file content executable) := by
  refine ⟨fun there => ?_, h.kept place _ apart⟩
  exact (h.made place _ apart there).resolve_right nofun

theorem contentOf (h : Writes places t t') (led : t.resolve path = .ok place)
    (apart : place ∉ places) (holds : t.contentOf path = .ok content) :
    t'.contentOf path = .ok content := by
  simp only [FileTree.contentOf, stat, led, h.leads path place led] at holds ⊢
  cases there : t.entry? place with
  | none => simp [there] at holds
  | some entry => simpa [there, h.kept place entry apart there] using holds

end Writes

def NeverText (c : Change α) : Prop := ∀ t t' e, c t ≠ .error (.text e) t'

theorem NeverText.bind {c : Change α} {f : α → Change β} (hc : NeverText c)
    (hf : ∀ a, NeverText (f a)) : NeverText (c >>= f) := by
  intro t t' fault
  cases run : c t with
  | ok a t₁ =>
    rw [bind_of_ok run]
    exact hf a t₁ t' fault
  | error e t₁ =>
    rw [bind_of_error run]
    rintro ⟨⟩
    exact hc t t' fault run

theorem NeverText.caught {c : Change α} {handle : PathFault → Change α} (hc : NeverText c)
    (hhandle : ∀ refusal, NeverText (handle (.os refusal))) : NeverText (tryCatch c handle) := by
  intro t t' fault
  cases run : c t with
  | ok a t₁ =>
    rw [tryCatch_of_ok run]
    nofun
  | error e t₁ =>
    rw [tryCatch_of_error run]
    cases e with
    | text e => exact absurd run (hc t t₁ e)
    | os refusal => exact hhandle refusal t₁ t' fault

theorem neverText_makeDirectory (passable : p.IsPassable) :
    NeverText (makeDirectory p.text) := by
  intro t t' fault h
  simp only [makeDirectory, bind, EStateM.bind, get_eq] at h
  cases led : t.resolve p.text with
  | error e =>
    simp only [led, throw_eq, EStateM.Result.error.injEq] at h
    have found := of?_of_resolve (led.trans (congrArg _ h.1))
    rw [PathName.of?_text_eq_none_iff.mpr passable] at found
    cases found
  | ok place =>
    cases there : (t.entry? place).isSome <;> cases parent : t.isDirectoryAt place.dropLast <;>
      simp_all [throw_eq, set_eq]

theorem neverText_orDirectory (path : String) (refusal : OsError) :
    NeverText (orDirectory path (.os refusal)) := by
  intro t t' fault h
  simp only [orDirectory, bind, EStateM.bind, get_eq] at h
  cases found : t.isDirectory? path with
  | error e =>
    rw [found] at h
    cases h
  | ok there =>
    rw [found] at h
    cases there <;> cases h

theorem neverText_keepDirectory (passable : p.IsPassable) : NeverText (keepDirectory p) := by
  refine (neverText_makeDirectory passable).caught fun refusal => ?_
  split
  · nofun
  · exact neverText_orDirectory _ _

theorem neverText_ensureFrom (depth : Nat) (passable : p.IsPassable) :
    NeverText (ensureFrom depth p) := by
  induction depth generalizing p with
  | zero => exact neverText_keepDirectory passable
  | succ depth ih =>
    refine (neverText_makeDirectory passable).caught fun refusal => ?_
    split
    · exact (ih passable.parent).bind fun _ => neverText_keepDirectory passable
    · exact neverText_orDirectory _ _

theorem neverText_ensureDirectory (passable : p.IsPassable) : NeverText (ensureDirectory p) :=
  neverText_ensureFrom _ passable

end PageBuild.FileTree
