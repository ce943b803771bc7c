import PageBuild.Proofs.FileTree.Growth

/-! What changes leave behind, whether they are refused or not. A directory is made together with
the missing ones above it; wherever that stops, all that stood in the tree still stands there, and
all that is new are directories on the way. Writing and deleting touch the place of their path at
most. -/
namespace PageBuild

def PathName.IsAbove (q p : PathName) : Prop := q.anchor = p.anchor ∧ q.parts <+: p.parts

theorem PathName.IsAbove.refl (p : PathName) : p.IsAbove p := ⟨rfl, List.prefix_rfl⟩

theorem PathName.IsAbove.of_parent {q p : PathName} (h : q.IsAbove p.parent) : q.IsAbove p :=
  ⟨h.1, h.2.trans (List.dropLast_prefix p.parts)⟩

namespace FileTree

variable {t t' t'' : FileTree} {start place other : Place} {names : List String} {path : String}
  {p q : PathName} {α β : Type}

def follow (place : Place) (name : String) : Place :=
  if name = "." then place else if name = ".." then place.dropLast else place ++ [name]

theorem eq_foldl_of_walk (h : t.walk start names = .ok place) :
    place = names.foldl follow start := by
  induction names generalizing start with
  | nil => exact (Except.ok.inj h).symm
  | cons name rest ih =>
    obtain ⟨-, -, ⟨rfl, down⟩ | ⟨rfl, down⟩ | ⟨noDot, noDots, last | ⟨-, -, down⟩⟩⟩ :=
      walk_cons_eq_ok_iff.mp h
    · exact ih down
    · exact ih down
    · obtain ⟨rfl, rfl⟩ := last
      simp [follow, noDot, noDots]
    · rw [List.foldl_cons, follow, if_neg noDot, if_neg noDots]
      exact ih down

def placeOf (t : FileTree) (p : PathName) : Place :=
  p.parts.foldl follow (if p.anchor = .relative then t.current else [])

theorem placeOf_congr (same : t'.current = t.current) (p : PathName) :
    t'.placeOf p = t.placeOf p := by
  rw [placeOf, placeOf, same]

theorem foldl_follow_of_plain (plain : ∀ name ∈ names, name ≠ "." ∧ name ≠ "..") (place : Place) :
    names.foldl follow place = place ++ names := by
  induction names generalizing place with
  | nil => simp
  | cons name rest ih =>
    obtain ⟨⟨noDot, noDots⟩, later⟩ := List.forall_mem_cons.mp plain
    rw [List.foldl_cons, follow, if_neg noDot, if_neg noDots, ih later]
    simp

/-- A path without dots is seen from another one, unless it is anchored itself. -/
theorem placeOf_join_of_plain (t : FileTree) (p : PathName) {q : PathName}
    (plain : ∀ name ∈ q.parts, name ≠ "." ∧ name ≠ "..") :
    t.placeOf (p.join q) = (if q.anchor = .relative then t.placeOf p else []) ++ q.parts := by
  unfold placeOf PathName.join
  by_cases relative : q.anchor = .relative
  · rw [if_pos relative, if_pos relative]
    dsimp only
    rw [List.foldl_append, foldl_follow_of_plain plain]
  · rw [if_neg relative, if_neg relative, if_neg relative, foldl_follow_of_plain plain]

theorem origin_text (t : FileTree) (p : PathName) :
    t.origin p.text = if p.anchor = .relative then t.current else [] := by
  obtain ⟨anchor, parts, isPart⟩ := p
  cases parts with
  | nil => cases anchor <;> simp [origin, PathName.text, Anchor.text]
  | cons part rest =>
    obtain ⟨named, -, noSlash⟩ := isPart part List.mem_cons_self
    obtain ⟨c, more, spelled⟩ := List.exists_cons_of_ne_nil (String.toList_eq_nil_iff.not.mpr named)
    have apart : c ≠ '/' := by
      rintro rfl
      exact noSlash (by simp [spelled])
    obtain ⟨tail, starts⟩ : ∃ tail, List.intercalate ['/'] ((part :: rest).map String.toList) =
        c :: tail := by
      cases rest with
      | nil => exact ⟨more, by simp [List.intercalate, spelled]⟩
      | cons next rest =>
        rw [List.map_cons, Text.intercalate_cons (by simp), spelled]
        exact ⟨_, List.cons_append⟩
    rw [origin, PathName.toList_text (by simp), starts]
    cases anchor <;> simp [Anchor.text, apart]

theorem namesOf_text_of_no_parts (h : p.parts = []) : namesOf p.text = ["."] := by
  unfold PathName.text
  rw [h]
  cases p.anchor <;> decide

/-- A path that leads anywhere leads to its place. -/
theorem eq_placeOf_of_resolve (h : t.resolve p.text = .ok place) : place = t.placeOf p := by
  have led := eq_foldl_of_walk (walk_of_resolve h)
  rw [origin_text] at led
  rw [led, placeOf]
  by_cases named : p.parts = []
  · rw [namesOf_text_of_no_parts named, named]
    rfl
  · rw [namesOf_text named]

def changed (c : Change α) (t : FileTree) : FileTree :=
  match c t with
  | .ok _ t' => t'
  | .error _ t' => t'

theorem changed_of_ok {c : Change α} {a : α} (h : c t = .ok a t') : changed c t = t' := by
  rw [changed, h]

theorem changed_of_error {c : Change α} {e : PathFault} (h : c t = .error e t') :
    changed c t = t' := by
  rw [changed, h]

theorem bind_of_ok {c : Change α} {f : α → Change β} {a : α} (h : c t = .ok a t') :
    (c >>= f) t = f a t' := by
  simp only [bind, EStateM.bind, h]

theorem bind_of_error {c : Change α} {f : α → Change β} {e : PathFault}
    (h : c t = .error e t') : (c >>= f) t = .error e t' := by
  simp only [bind, EStateM.bind, h]

theorem tryCatch_of_ok {c : Change α} {handle : PathFault → Change α} {a : α}
    (h : c t = .ok a t') : (tryCatch c handle : Change α) t = .ok a t' := by
  simp only [tryCatch, tryCatchThe, MonadExceptOf.tryCatch, EStateM.tryCatch, h]

theorem tryCatch_of_error {c : Change α} {handle : PathFault → Change α} {e : PathFault}
    (h : c t = .error e t') : (tryCatch c handle : Change α) t = handle e t' := by
  simp only [tryCatch, tryCatchThe, MonadExceptOf.tryCatch, EStateM.tryCatch, h]
  rfl

/-- The second tree is the first one with directories that are on the way to a path. -/
structure Makes (p : PathName) (t t' : FileTree) : Prop where
  keeps : t.Extends t'
  made : ∀ place entry, t'.entry? place = some entry → t.entry? place = some entry ∨
    entry = .directory ∧ ∃ q : PathName, q.IsAbove p ∧ place = t.placeOf q

namespace Makes

theorem refl (p : PathName) (t : FileTree) : Makes p t t := ⟨.refl t, fun _ _ there => .inl there⟩

theorem trans (first : Makes p t t') (second : Makes p t' t'') : Makes p t t'' := by
  refine ⟨first.keeps.trans second.keeps, fun place entry there => ?_⟩
  rcases second.made place entry there with old | ⟨directory, q, above, rfl⟩
  · exact first.made place entry old
  · exact .inr ⟨directory, q, above, placeOf_congr first.keeps.current q⟩

theorem of_parent (h : Makes p.parent t t') : Makes p t t' := by
  refine ⟨h.keeps, fun place entry there => ?_⟩
  rcases h.made place entry there with old | ⟨directory, q, above, placed⟩
  · exact .inl old
  · exact .inr ⟨directory, q, above.of_parent, placed⟩

theorem put (led : t.resolve p.text = .ok place) (bare : t.entry? place = none) :
    Makes p t (t.put place .directory) := by
  refine ⟨(Extends.refl t).put _ bare, fun other entry there => ?_⟩
  by_cases same : other = place
  · have named : place ≠ [] := by
      rintro rfl
      cases bare
    rw [same, entry?_put_self _ named] at there
    exact .inr ⟨(Option.some.inj there).symm, p, .refl p, same.trans (eq_placeOf_of_resolve led)⟩
  · rw [entry?_put_other _ same] at there
    exact .inl there

end Makes

/-- Whatever a change does, it makes no more than directories on the way to a path. -/
def OnlyMakes (p : PathName) (c : Change α) : Prop := ∀ t, Makes p t (changed c t)

theorem OnlyMakes.bind {c : Change α} {f : α → Change β} (hc : OnlyMakes p c)
    (hf : ∀ a, OnlyMakes p (f a)) : OnlyMakes p (c >>= f) := by
  intro t
  have first := hc t
  cases run : c t with
  | ok a t₁ =>
    rw [changed_of_ok run] at first
    rw [changed, bind_of_ok run]
    exact first.trans (hf a t₁)
  | error e t₁ =>
    rw [changed_of_error run] at first
    rwa [changed_of_error (bind_of_error run)]

theorem OnlyMakes.caught {c : Change α} {handle : PathFault → Change α} (hc : OnlyMakes p c)
    (hhandle : ∀ e, OnlyMakes p (handle e)) : OnlyMakes p (tryCatch c handle) := by
  intro t
  have first := hc t
  cases run : c t with
  | ok a t₁ =>
    rw [changed_of_ok run] at first
    rwa [changed_of_ok (tryCatch_of_ok run)]
  | error e t₁ =>
    rw [changed_of_error run] at first
    rw [changed, tryCatch_of_error run]
    exact first.trans (hhandle e t₁)

theorem onlyMakes_of_unchanged {c : Change α} (h : ∀ t, changed c t = t) : OnlyMakes p c := by
  intro t
  rw [h]
  exact .refl p t

theorem onlyMakes_makeDirectory (p : PathName) : OnlyMakes p (makeDirectory p.text) := by
  intro t
  cases run : makeDirectory p.text t with
  | ok _ t' =>
    obtain ⟨place, led, bare, -, rfl⟩ := makeDirectory_eq_ok run
    rw [changed_of_ok run]
    exact .put led bare
  | error e t' =>
    obtain rfl := makeDirectory_of_error run
    rw [changed_of_error run]
    exact .refl p t'

theorem orDirectory_eq (path : String) (e : PathFault) (t : FileTree) :
    orDirectory path e t = .ok () t ∧ t.isDirectory? path = .ok true ∨
      ∃ refusal, orDirectory path e t = .error refusal t := by
  cases e with
  | text e => exact .inr ⟨.text e, rfl⟩
  | os e =>
    simp only [orDirectory, bind, EStateM.bind, get_eq]
    cases t.isDirectory? path with
    | error refusal => exact .inr ⟨_, rfl⟩
    | ok there =>
      cases there
      · exact .inr ⟨_, rfl⟩
      · exact .inl ⟨rfl, rfl⟩

theorem onlyMakes_orDirectory (path : String) (e : PathFault) :
    OnlyMakes p (orDirectory path e) := by
  apply onlyMakes_of_unchanged
  intro t
  rcases orDirectory_eq path e t with ⟨run, -⟩ | ⟨refusal, run⟩
  · exact changed_of_ok run
  · exact changed_of_error run

theorem onlyMakes_keepDirectory (p : PathName) : OnlyMakes p (keepDirectory p) := by
  refine (onlyMakes_makeDirectory p).caught fun e => ?_
  split
  · exact onlyMakes_of_unchanged fun _ => rfl
  · exact onlyMakes_orDirectory _ _

theorem onlyMakes_ensureFrom (depth : Nat) (p : PathName) : OnlyMakes p (ensureFrom depth p) := by
  induction depth generalizing p with
  | zero => exact onlyMakes_keepDirectory p
  | succ depth ih =>
    refine (onlyMakes_makeDirectory p).caught fun e => ?_
    split
    · have above : OnlyMakes p (ensureFrom depth p.parent) := fun t => (ih p.parent t).of_parent
      exact above.bind fun _ => onlyMakes_keepDirectory p
    · exact onlyMakes_orDirectory _ _

theorem onlyMakes_ensureDirectory (p : PathName) : OnlyMakes p (ensureDirectory p) :=
  onlyMakes_ensureFrom _ p

/-! A directory that was made is there. -/

theorem ask_eq_ok_true_iff {yes : Entry → Bool} :
    t.ask path yes = .ok true ↔
      ∃ place entry, t.resolve path = .ok place ∧ t.entry? place = some entry ∧
        yes entry = true := by
  unfold ask stat
  cases led : t.resolve path with
  | error e =>
    cases e with
    | text e => simp
    | os e =>
      simp only [reduceCtorEq, false_and, exists_false, iff_false]
      split <;> simp
  | ok place => cases there : t.entry? place <;> simp [there]

theorem isDirectory?_eq_ok_true_iff :
    t.isDirectory? path = .ok true ↔
      ∃ place, t.resolve path = .ok place ∧ t.entry? place = some .directory := by
  unfold isDirectory?
  simp [ask_eq_ok_true_iff]

theorem isDirectory?_of_makeDirectory (h : makeDirectory path t = .ok () t') :
    t'.isDirectory? path = .ok true := by
  obtain ⟨place, led, bare, -, rfl⟩ := makeDirectory_eq_ok h
  have named : place ≠ [] := by
    rintro rfl
    cases bare
  have free : t.entry? place ≠ some .directory := by simp [bare]
  exact isDirectory?_eq_ok_true_iff.mpr
    ⟨place, resolve_put _ free led, entry?_put_self _ named⟩

theorem isDirectory?_of_orDirectory {e : PathFault} (h : orDirectory path e t = .ok () t') :
    t'.isDirectory? path = .ok true := by
  rcases orDirectory_eq path e t with ⟨run, there⟩ | ⟨refusal, run⟩
  · rw [run] at h
    cases h
    exact there
  · rw [run] at h
    cases h

theorem isDirectory?_of_keepDirectory (h : keepDirectory p t = .ok () t') :
    t'.isDirectory? p.text = .ok true := by
  unfold keepDirectory at h
  cases run : makeDirectory p.text t with
  | ok _ t₁ =>
    rw [tryCatch_of_ok run] at h
    cases h
    exact isDirectory?_of_makeDirectory run
  | error e t₁ =>
    rw [tryCatch_of_error run] at h
    split at h
    · cases h
    · exact isDirectory?_of_orDirectory h

theorem isDirectory?_of_ensureDirectory (h : ensureDirectory p t = .ok () t') :
    t'.isDirectory? p.text = .ok true := by
  unfold ensureDirectory at h
  cases depth : p.parts.length with
  | zero =>
    rw [depth] at h
    exact isDirectory?_of_keepDirectory h
  | succ depth =>
    rw [depth, ensureFrom] at h
    cases run : makeDirectory p.text t with
    | ok _ t₁ =>
      rw [tryCatch_of_ok run] at h
      cases h
      exact isDirectory?_of_makeDirectory run
    | error e t₁ =>
      rw [tryCatch_of_error run] at h
      split at h
      · simp only [bind, EStateM.bind] at h
        split at h
        · exact isDirectory?_of_keepDirectory h
        · cases h
      · exact isDirectory?_of_orDirectory h

/-- Writing puts a file where its path leads; a refusal changes nothing. -/
theorem write_cases (path : String) (content : List UInt8) (t : FileTree) :
    (∃ e, write path content t = .error e t ∧
        ∀ fault, e = .text fault → TextFault.of? path = some fault) ∨
      ∃ place executable, t.resolve path = .ok place ∧ t.entry? place ≠ some .directory ∧
        write path content t = .ok () (t.put place (.file content executable)) := by
  simp only [write, bind, EStateM.bind, get_eq]
  cases led : t.resolve path with
  | error e =>
    refine .inl ⟨e, rfl, ?_⟩
    rintro fault rfl
    exact of?_of_resolve led
  | ok place =>
    dsimp only
    cases there : t.entry? place with
    | some old =>
      cases old with
      | directory =>
        refine .inl ⟨_, rfl, ?_⟩
        rintro _ ⟨⟩
      | file old executable => exact .inr ⟨place, executable, rfl, by simp [there], rfl⟩
    | none =>
      cases parent : t.isDirectoryAt place.dropLast with
      | true => exact .inr ⟨place, false, rfl, by simp [there], rfl⟩
      | false =>
        refine .inl ⟨_, rfl, ?_⟩
        rintro _ ⟨⟩

theorem writeText_of_isEncodable {text : String} (encodable : Text.IsEncodable text)
    (path : String) : writeText path text = write path (Utf8.encode text) := by
  rw [writeText, Utf8.unencodable?_eq_none_iff_isEncodable.mpr encodable]

theorem writeText_eq_ok_iff {text : String} : writeText path text t = .ok () t' ↔
    Text.IsEncodable text ∧ write path (Utf8.encode text) t = .ok () t' := by
  cases encoded : Utf8.unencodable? (fun _ => false) text.toList with
  | none =>
    have encodable := Utf8.unencodable?_eq_none_iff_isEncodable.mp encoded
    rw [writeText_of_isEncodable encodable, and_iff_right encodable]
  | some e =>
    refine iff_of_false (fun run => ?_) fun written => ?_
    · simp only [writeText, encoded, bind, EStateM.bind] at run
      split at run <;> cases run
    · rw [Utf8.unencodable?_eq_none_iff_isEncodable.mpr written.1] at encoded
      cases encoded

/-- The bytes that a text leaves in its file, whether it has an encoding or not. -/
def bytesOf (text : String) : List UInt8 :=
  if Text.IsEncodable text then Utf8.encode text else []

/-- Writing a text is refused as the writing of its bytes is, or ends with them in their place. -/
theorem writeText_cases (path text : String) (t : FileTree) :
    (∃ e, writeText path text t = .error e t ∧
        ∀ fault, e = .text fault → TextFault.of? path = some fault) ∨
      ∃ place executable, t.resolve path = .ok place ∧ t.entry? place ≠ some .directory ∧
        writeText path text t =
          match Utf8.unencodable? (fun _ => false) text.toList with
          | none => .ok () (t.put place (.file (bytesOf text) executable))
          | some e =>
            .error (.text (.unencodable e)) (t.put place (.file (bytesOf text) executable)) := by
  unfold writeText bytesOf
  cases encoded : Utf8.unencodable? (fun _ => false) text.toList with
  | none =>
    rw [if_pos (Utf8.unencodable?_eq_none_iff_isEncodable.mp encoded)]
    exact write_cases path (Utf8.encode text) t
  | some e =>
    have bad : ¬ Text.IsEncodable text := by
      rw [← Utf8.unencodable?_eq_none_iff_isEncodable, encoded]
      nofun
    rw [if_neg bad]
    rcases write_cases path [] t with ⟨e, run, why⟩ | ⟨place, executable, led, bare, run⟩
    · exact .inl ⟨e, bind_of_error run, why⟩
    · exact .inr ⟨place, executable, led, bare, bind_of_ok run⟩

theorem changed_writeText (path text : String) (t : FileTree) :
    changed (writeText path text) t = t ∨ ∃ place executable, t.resolve path = .ok place ∧
      t.entry? place ≠ some .directory ∧
      changed (writeText path text) t = t.put place (.file (bytesOf text) executable) := by
  rcases writeText_cases path text t with ⟨e, run, -⟩ | ⟨place, executable, led, bare, run⟩
  · exact .inl (changed_of_error run)
  · refine .inr ⟨place, executable, led, bare, ?_⟩
    rw [changed, run]
    cases Utf8.unencodable? (fun _ => false) text.toList <;> rfl

/-- Deleting takes a file away from where its path leads, unless it is refused. -/
theorem changed_unlink (path : String) (t : FileTree) :
    changed (unlink path) t = t ∨ ∃ place content executable, t.resolve path = .ok place ∧
      t.entry? place = some (.file content executable) ∧
      changed (unlink path) t = t.erase place := by
  simp only [changed, unlink, bind, EStateM.bind, get_eq]
  cases led : t.resolve path with
  | error e => exact .inl rfl
  | ok place =>
    dsimp only
    cases there : t.entry? place with
    | none => exact .inl rfl
    | some old =>
      cases old with
      | directory => exact .inl rfl
      | file content executable => exact .inr ⟨place, content, executable, rfl, there, rfl⟩

theorem entry?_erase_self (t : FileTree) (named : place ≠ []) :
    FileTree.entry? (t.erase place) place = none := by
  simp only [erase, entry?, if_neg named]
  exact find?_filter_of_dropped fun _ => by simp

theorem entry?_erase_other (t : FileTree) (apart : other ≠ place) :
    FileTree.entry? (t.erase place) other = t.entry? other := by
  simp only [erase, entry?]
  rw [find?_filter_of_kept fun _ => by simp [apart]]

theorem isDirectory?_put {entry : Entry} (bare : t.entry? place ≠ some .directory)
    (h : t.isDirectory? path = .ok true) :
    (t.put place entry).isDirectory? path = .ok true := by
  obtain ⟨found, led, there⟩ := isDirectory?_eq_ok_true_iff.mp h
  have apart : found ≠ place := by
    rintro rfl
    exact bare there
  exact isDirectory?_eq_ok_true_iff.mpr
    ⟨found, resolve_put entry bare led, (entry?_put_other _ apart).trans there⟩

/-- A path does not exist once its place is empty. -/
theorem exists?_eq_false (led : t.resolve p.text = .ok place) (same : t'.current = t.current)
    (bare : t'.entry? place = none) : t'.exists? p.text = .ok false := by
  obtain ⟨there, asked⟩ := exists?_of_resolve led t'
  cases there with
  | false => exact asked
  | true =>
    obtain ⟨found, entry, led', there, -⟩ := ask_eq_ok_true_iff.mp asked
    rw [eq_placeOf_of_resolve led', placeOf_congr same, ← eq_placeOf_of_resolve led, bare] at there
    cases there

end FileTree
end PageBuild
