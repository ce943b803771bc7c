import PageBuild.FileTree

/-! Where paths lead. A file that was written is read back as it was written, by the path that it
was written to; and a path that has led anywhere can be asked about from then on. -/
namespace PageBuild.FileTree

variable {t t' : FileTree} {start place other : Place} {names : List String} {path : String}

theorem find?_filter_of_kept {entries : List (Place × Entry)} {keep : Place × Entry → Bool}
    (h : ∀ entry, keep (place, entry) = true) :
    find? (entries.filter keep) place = find? entries place := by
  unfold find?
  rw [List.find?_filter]
  congr 2
  funext ⟨other, entry⟩
  by_cases same : other = place
  · subst same
    simp [h entry]
  · simp [same]

theorem find?_filter_of_dropped {entries : List (Place × Entry)} {keep : Place × Entry → Bool}
    (h : ∀ entry, keep (place, entry) = false) : find? (entries.filter keep) place = none := by
  unfold find?
  rw [Option.map_eq_none_iff, List.find?_eq_none]
  rintro ⟨other, entry⟩ member
  have kept := (List.mem_filter.mp member).2
  simp only [decide_eq_true_eq]
  rintro rfl
  simp [h entry] at kept

theorem find?_append (first second : List (Place × Entry)) (place : Place) :
    find? (first ++ second) place = (find? first place).or (find? second place) := by
  unfold find?
  rw [List.find?_append, Option.map_or]

theorem entry?_put_self (entry : Entry) (h : place ≠ []) :
    FileTree.entry? (t.put place entry) place = some entry := by
  simp only [put, entry?, if_neg h]
  rw [find?_append, find?_filter_of_dropped fun _ => by simp]
  simp [find?]

theorem entry?_put_other (entry : Entry) (h : other ≠ place) :
    FileTree.entry? (t.put place entry) other = t.entry? other := by
  simp only [put, entry?]
  rw [find?_append, find?_filter_of_kept fun _ => by simp [h]]
  simp [find?, h.symm]

theorem isDirectoryAt_put (entry : Entry) (h : other ≠ place) :
    (t.put place entry).isDirectoryAt other = t.isDirectoryAt other := by
  rw [isDirectoryAt, isDirectoryAt, entry?_put_other entry h]

theorem walk_cons_eq_ok_iff {name : String} {rest : List String} :
    t.walk start (name :: rest) = .ok place ↔
      t.isDirectoryAt start = true ∧ Text.byteSize name ≤ nameLimit ∧
      (name = "." ∧ t.walk start rest = .ok place ∨
        name = ".." ∧ t.walk start.dropLast rest = .ok place ∨
        name ≠ "." ∧ name ≠ ".." ∧ (rest = [] ∧ start ++ [name] = place ∨
          rest ≠ [] ∧ (t.entry? (start ++ [name])).isSome = true ∧
            t.walk (start ++ [name]) rest = .ok place)) := by
  rw [walk]
  by_cases isDirectory : t.isDirectoryAt start = true
  · by_cases long : nameLimit < Text.byteSize name
    · simp [isDirectory, long, Nat.not_le.mpr long]
    · have short := Nat.not_lt.mp long
      by_cases dot : name = "."
      · have noDots : name ≠ ".." := by simp [dot]
        simp [isDirectory, long, short, eq_true dot, noDots]
      · by_cases dots : name = ".."
        · simp [isDirectory, long, short, dot, eq_true dots]
        · cases rest with
          | nil => simp [isDirectory, long, short, dot, dots]
          | cons next rest =>
            cases there : t.entry? (start ++ [name]) <;>
              simp [isDirectory, long, short, dot, dots, there]
  · simp [isDirectory]

/-- A path still leads to a place after something was put there, unless a directory gave way. -/
theorem walk_put (entry : Entry) (bare : t.entry? place ≠ some .directory)
    (h : t.walk start names = .ok other) : (t.put place entry).walk start names = .ok other := by
  induction names generalizing start with
  | nil => exact h
  | cons name rest ih =>
    rw [walk_cons_eq_ok_iff] at h ⊢
    obtain ⟨isDirectory, short, way⟩ := h
    -- Names are looked up in directories only, and none stands at the place.
    have apart : start ≠ place := by
      rintro rfl
      exact bare (by simpa [isDirectoryAt] using isDirectory)
    refine ⟨by rwa [isDirectoryAt_put entry apart], short, ?_⟩
    rcases way with ⟨dot, down⟩ | ⟨dots, down⟩ | ⟨noDot, noDots, last | ⟨more, there, down⟩⟩
    · exact .inl ⟨dot, ih down⟩
    · exact .inr (.inl ⟨dots, ih down⟩)
    · exact .inr (.inr ⟨noDot, noDots, .inl last⟩)
    · refine .inr (.inr ⟨noDot, noDots, .inr ⟨more, ?_, ih down⟩⟩)
      by_cases same : start ++ [name] = place
      · rw [← same, entry?_put_self entry (by simp)]
        rfl
      · rwa [entry?_put_other entry same]

theorem short_of_walk (h : t.walk start names = .ok place) :
    ∀ name ∈ names, Text.byteSize name ≤ nameLimit := by
  induction names generalizing start with
  | nil => simp
  | cons name rest ih =>
    obtain ⟨-, short, way⟩ := walk_cons_eq_ok_iff.mp h
    refine List.forall_mem_cons.mpr ⟨short, ?_⟩
    rcases way with ⟨-, down⟩ | ⟨-, down⟩ | ⟨-, -, ⟨rfl, -⟩ | ⟨-, -, down⟩⟩
    · exact ih down
    · exact ih down
    · simp
    · exact ih down

/-- A path leads nowhere for what stands on the way, or because one of its names is too long. -/
theorem walk_error_cases {e : Errno} (h : t.walk start names = .error e) :
    e = .noEntry ∨ e = .notDirectory ∨
      e = .nameTooLong ∧ ∃ name ∈ names, nameLimit < Text.byteSize name := by
  induction names generalizing start with
  | nil => cases h
  | cons name rest ih =>
    have later {start : Place} (h : t.walk start rest = .error e) :
        e = .noEntry ∨ e = .notDirectory ∨
          e = .nameTooLong ∧ ∃ other ∈ name :: rest, nameLimit < Text.byteSize other :=
      (ih h).imp_right (.imp_right fun ⟨same, other, member, long⟩ =>
        ⟨same, other, List.mem_cons_of_mem _ member, long⟩)
    rw [walk] at h
    split at h
    · exact .inr (.inl (Except.error.inj h).symm)
    · split at h
      · next long =>
        exact .inr (.inr ⟨(Except.error.inj h).symm, name, List.mem_cons_self, long⟩)
      · split at h
        · exact later h
        · split at h
          · exact later h
          · dsimp only at h
            split at h
            · cases h
            · split at h
              · exact .inl (Except.error.inj h).symm
              · exact later h

/-- Where no name is too long, a path leads nowhere only for what stands on the way. -/
theorem walk_error (short : ∀ name ∈ names, Text.byteSize name ≤ nameLimit) {e : Errno}
    (h : t.walk start names = .error e) : e = .noEntry ∨ e = .notDirectory := by
  rcases walk_error_cases h with missing | blocked | ⟨-, name, member, long⟩
  · exact .inl missing
  · exact .inr blocked
  · exact absurd long (Nat.not_lt.mpr (short name member))

def origin (t : FileTree) (path : String) : Place :=
  if path.toList.head? = some '/' then [] else t.current

/-- A text that is not refused before its names are followed. -/
structure Fits (path : String) : Prop where
  passed : TextFault.of? path = none
  within : Text.byteSize path < pathLimit
  named : path ≠ ""

theorem resolve_of_walk (fits : Fits path)
    (led : t.walk (t.origin path) (namesOf path) = .ok place) : t.resolve path = .ok place := by
  rw [origin] at led
  simp only [resolve, fits.passed, if_neg (Nat.not_le.mpr fits.within), if_neg fits.named, led]

theorem resolve_of_walk_error (fits : Fits path) {e : Errno}
    (lost : t.walk (t.origin path) (namesOf path) = .error e) :
    t.resolve path = .error (.os ⟨e, path⟩) := by
  rw [origin] at lost
  simp only [resolve, fits.passed, if_neg (Nat.not_le.mpr fits.within), if_neg fits.named, lost]

theorem fits_of_resolve (h : t.resolve path = .ok place) : Fits path := by
  unfold resolve at h
  split at h
  · cases h
  · next passed =>
    split at h
    · cases h
    · next within =>
      split at h
      · cases h
      · next named => exact ⟨passed, Nat.lt_of_not_le within, named⟩

theorem walk_of_resolve (h : t.resolve path = .ok place) :
    t.walk (t.origin path) (namesOf path) = .ok place := by
  have fits := fits_of_resolve h
  cases led : t.walk (t.origin path) (namesOf path) with
  | ok found =>
    obtain rfl := Except.ok.inj ((resolve_of_walk fits led).symm.trans h)
    rfl
  | error e => exact absurd ((resolve_of_walk_error fits led).symm.trans h) (by simp)

/-- What a path led to before can be asked about, whatever has changed. -/
theorem exists?_of_resolve (h : t.resolve path = .ok place) (t' : FileTree) :
    ∃ there, t'.exists? path = .ok there := by
  have fits := fits_of_resolve h
  unfold exists? ask stat
  cases walked : t'.walk (t'.origin path) (namesOf path) with
  | ok found =>
    rw [resolve_of_walk fits walked]
    cases there : t'.entry? found <;> simp [there]
  | error e =>
    rw [resolve_of_walk_error fits walked]
    rcases walk_error (short_of_walk (walk_of_resolve h)) walked with rfl | rfl <;> simp

theorem resolve_put (entry : Entry) (bare : t.entry? place ≠ some .directory)
    (h : t.resolve path = .ok other) : (t.put place entry).resolve path = .ok other := by
  have led := walk_put entry bare (walk_of_resolve h)
  exact resolve_of_walk (fits_of_resolve h) led

/-- A file that was put where a path leads is what the path leads to. -/
theorem contentOf_put (content : List UInt8) (executable : Bool)
    (resolved : t.resolve path = .ok place) (bare : t.entry? place ≠ some .directory) :
    (t.put place (.file content executable)).contentOf path = .ok content := by
  have below : place ≠ [] := by
    rintro rfl
    exact bare rfl
  simp only [contentOf, stat, resolve_put _ bare resolved, entry?_put_self _ below]

theorem get_eq (t : FileTree) : (get : Change FileTree) t = .ok t t := rfl

theorem set_eq (t t' : FileTree) : (set t' : Change PUnit) t = .ok ⟨⟩ t' := rfl

theorem throw_eq (e : PathFault) (t : FileTree) : (throw e : Change Unit) t = .error e t := rfl

theorem contentOf_write {content : List UInt8} (h : write path content t = .ok () t') :
    t'.contentOf path = .ok content := by
  simp only [write, bind, EStateM.bind, get_eq] at h
  cases resolved : t.resolve path with
  | error e => simp [resolved, throw_eq] at h
  | ok place =>
    cases there : t.entry? place with
    | some old =>
      cases old with
      | directory => simp [resolved, there, throw_eq] at h
      | file old executable =>
        simp only [resolved, there, set_eq, EStateM.Result.ok.injEq, true_and] at h
        subst h
        exact contentOf_put content executable resolved (by simp [there])
    | none =>
      by_cases parent : t.isDirectoryAt place.dropLast = true
      · simp only [resolved, there, parent, if_true, set_eq, EStateM.Result.ok.injEq,
          true_and] at h
        subst h
        exact contentOf_put content false resolved (by simp [there])
      · simp [resolved, there, parent, throw_eq] at h

theorem makeDirectory_eq_ok (h : makeDirectory path t = .ok () t') :
    ∃ place, t.resolve path = .ok place ∧ t.entry? place = none ∧
      t.isDirectoryAt place.dropLast = true ∧ t' = t.put place .directory := by
  simp only [makeDirectory, bind, EStateM.bind, get_eq] at h
  cases led : t.resolve path with
  | error e => simp [led, throw_eq] at h
  | ok place =>
    cases there : t.entry? place with
    | some entry => simp [led, there, throw_eq] at h
    | none =>
      by_cases parent : t.isDirectoryAt place.dropLast = true
      · simp only [led, there, parent, set_eq, Option.isSome_none, Bool.false_eq_true, if_false,
          Bool.not_true, EStateM.Result.ok.injEq, true_and] at h
        exact ⟨place, rfl, there, parent, h.symm⟩
      · simp [led, there, parent, throw_eq] at h

theorem makeDirectory_of_error {e : PathFault} (h : makeDirectory path t = .error e t') :
    t' = t := by
  simp only [makeDirectory, bind, EStateM.bind, get_eq] at h
  cases led : t.resolve path with
  | error refusal =>
    simp only [led, throw_eq, EStateM.Result.error.injEq] at h
    exact h.2.symm
  | ok place =>
    cases there : (t.entry? place).isSome <;> cases parent : t.isDirectoryAt place.dropLast <;>
      simp_all [throw_eq, set_eq]

/-- A path is refused for its text only if the text is not passed on. -/
theorem of?_of_resolve {e : TextFault} (h : t.resolve path = .error (.text e)) :
    TextFault.of? path = some e := by
  unfold resolve at h
  split at h
  · next found =>
    obtain rfl : _ = e := by simpa using h
    exact found
  · split at h
    · cases h
    · split at h
      · cases h
      · dsimp only at h
        split at h <;> cases h

/-- A path that can be passed on is deleted or refused. -/
theorem unlink_ne_text (passed : TextFault.of? path = none) (e : TextFault) :
    unlink path t ≠ .error (.text e) t' := by
  intro h
  simp only [unlink, bind, EStateM.bind, get_eq] at h
  cases resolved : t.resolve path with
  | error e' =>
    simp only [resolved, throw_eq, EStateM.Result.error.injEq] at h
    have found := of?_of_resolve (resolved.trans (congrArg _ h.1))
    rw [passed] at found
    cases found
  | ok place =>
    rcases there : t.entry? place with _ | ⟨content, executable⟩ | _ <;>
      simp [resolved, there, throw_eq, set_eq] at h

end PageBuild.FileTree
