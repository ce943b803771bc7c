import PageBuild.Proofs.LineMap.Resolution
import PageBuild.Proofs.Schema.Fields

/-! Assignments to line maps. A value that its field takes stays in the map even if the check on the
map as a whole then fails, so a refused assignment may leave a map behind whose sections name files
that are not declared. It does so exactly when the map was consistent up to then and the new value
is what breaks it. -/
namespace PageBuild.LineMap

variable {m stored state : LineMap} {name : String} {value : Json}
  {assignments before : List (String × Json)}

structure DiffersOnlyIn (name : String) (m stored : LineMap) : Prop where
  generatedFile : name ≠ "generated_file" → stored.generatedFile = m.generatedFile
  className : name ≠ "class_name" → stored.className = m.className
  stratum : name ≠ "stratum" → stored.stratum = m.stratum
  files : name ≠ "files" → stored.files = m.files
  entries : name ≠ "entries" → stored.entries = m.entries

def assigned (m : LineMap) : List (String × Json) → LineMap
  | [] => m
  | (name, value) :: rest => (m.assign name value).1.assigned rest

def Asks (m : LineMap) (assignments : List (String × Json)) (state : LineMap) (name : String)
    (value : Json) : Prop :=
  ∃ before rest, assignments = before ++ (name, value) :: rest ∧ m.assigned before = state

def Reaches (m : LineMap) (assignments : List (String × Json)) (state : LineMap) : Prop :=
  ∃ before, before <+: assignments ∧ m.assigned before = state

theorem assigned_append (rest : List (String × Json)) :
    m.assigned (before ++ rest) = (m.assigned before).assigned rest := by
  induction before generalizing m with
  | nil => rfl
  | cons first before ih => exact ih

theorem differsOnlyIn_of_stored (h : Schema.assign fields name value m = .ok stored) :
    m.DiffersOnlyIn name stored := by
  unfold Schema.assign at h
  split at h
  · next field found =>
    have named : field.name = name := by simpa using List.find?_some found
    have member : field ∈ fields := List.mem_of_find?_eq_some found
    cases taken : field.store value m with
    | error issues =>
      rw [taken] at h
      contradiction
    | ok next =>
      rw [taken] at h
      obtain rfl := Except.ok.inj h
      subst named
      simp only [fields, List.mem_cons, List.not_mem_nil, or_false] at member
      rcases member with rfl | rfl | rfl | rfl | rfl <;>
      · obtain ⟨a, -, rfl⟩ := Schema.exists_of_bind_pure taken
        constructor <;> simp
  · contradiction

/-- What becomes of an assignment: it is for no field and changes none, or the field refuses the
value and nothing changes, or the field takes it, and then the check on the map as a whole decides
about the answer only. -/
theorem assign_cases (m : LineMap) (name : String) (value : Json) :
    name.toList.head? = some '_' ∧ m.assign name value = (m, .ok ()) ∨
    (∃ r, m.assign name value = (m, .error r)) ∨
    (∃ stored, m.assign name value = (stored, .ok ()) ∧ m.DiffersOnlyIn name stored ∧
      stored.IsConsistent) ∨
    (∃ stored e, m.assign name value =
        (stored, .error { model, issues := [{ kind := .value (UnknownFile.message e) }] }) ∧
      m.DiffersOnlyIn name stored ∧ stored.unknown? = some e) := by
  unfold assign
  by_cases beside : name.toList.head? = some '_'
  · exact .inl ⟨beside, if_pos beside⟩
  rw [if_neg beside]
  refine .inr ?_
  cases taken : Schema.assign fields name value m with
  | error issues => exact .inl ⟨_, rfl⟩
  | ok stored =>
    have differs := differsOnlyIn_of_stored taken
    cases unknown : stored.unknown? with
    | none =>
      have consistent := stored.unknown?_eq_none_iff.mp unknown
      refine .inr (.inl ⟨stored, ?_, differs, consistent⟩)
      simp only [LineMap.consistent, unknown]
      rfl
    | some e =>
      refine .inr (.inr ⟨stored, e, ?_, differs, unknown⟩)
      simp only [LineMap.consistent, unknown]
      rfl

theorem isConsistent_of_assign_ok (consistent : m.IsConsistent)
    (h : (m.assign name value).2 = .ok ()) : (m.assign name value).1.IsConsistent := by
  rcases assign_cases m name value with ⟨-, kept⟩ | ⟨r, refused⟩ |
    ⟨stored, accepted, -, consistent⟩ | ⟨stored, e, refused, -⟩
  · rwa [kept]
  · simp [refused] at h
  · rw [accepted]
    exact consistent
  · simp [refused] at h

theorem reaches_append_singleton (asks : m.Asks assignments state name value) :
    m.Reaches assignments (state.assign name value).1 := by
  obtain ⟨before, rest, rfl, rfl⟩ := asks
  refine ⟨before ++ [(name, value)], ⟨rest, by simp⟩, ?_⟩
  rw [assigned_append]
  rfl

/-- A run in which refusals change nothing stays among the consistent maps. -/
theorem isConsistent_assigned (consistent : m.IsConsistent)
    (unchanged : ∀ state name value, m.Asks assignments state name value →
      ∀ r, (state.assign name value).2 = .error r → (state.assign name value).1 = state) :
    (m.assigned assignments).IsConsistent := by
  induction assignments generalizing m with
  | nil => exact consistent
  | cons first rest ih =>
    obtain ⟨name, value⟩ := first
    have here := unchanged m name value ⟨[], rest, rfl, rfl⟩
    apply ih (m := (m.assign name value).1)
    · cases answer : (m.assign name value).2 with
      | ok _ => exact isConsistent_of_assign_ok consistent answer
      | error r =>
        rw [here r answer]
        exact consistent
    · rintro state name' value' ⟨before, later, rfl, reached⟩
      exact unchanged state name' value' ⟨(name, value) :: before, later, rfl, reached⟩

/-- Refusals change nothing exactly as long as every state of the run is consistent. -/
theorem unchanged_iff_isConsistent (consistent : m.IsConsistent) :
    (∀ state name value, m.Asks assignments state name value →
      ∀ r, (state.assign name value).2 = .error r → (state.assign name value).1 = state) ↔
    ∀ state, m.Reaches assignments state → state.IsConsistent := by
  constructor
  · rintro unchanged _ ⟨before, ⟨later, rfl⟩, rfl⟩
    apply isConsistent_assigned consistent
    rintro state name value ⟨first, rest, rfl, reached⟩
    exact unchanged state name value ⟨first, rest ++ later, by simp, reached⟩
  · intro reached state name value asks r refused
    rcases assign_cases state name value with ⟨-, kept⟩ | ⟨_, kept⟩ | ⟨stored, accepted, -⟩ |
      ⟨stored, e, broken, -, unknown⟩
    · rw [kept]
    · rw [kept]
    · simp [accepted] at refused
    · have next := reached _ (reaches_append_singleton asks)
      rw [broken, ← unknown?_eq_none_iff, unknown] at next
      contradiction

theorem resolve_of_undeclared {line : Int} {e : LineEntry} {k : Nat}
    (first : m.FirstHasAt line e k) (undeclared : m.file? e.fileId = none) :
    m.resolve line = .error ⟨e.fileId⟩ := by
  obtain ⟨before, after, entries, has, missing⟩ := first
  have found := LineEntry.resolve_eq_some_iff.mpr ⟨k, has, rfl⟩
  rw [resolve, entries, resolveBy_append _ missing]
  simp [resolveBy, found, undeclared]

/-- A line is not resolved for lack of a file only if the first section that has it names one that
is not declared. -/
theorem resolve_eq_error_iff {line : Int} :
    (∃ e, m.resolve line = .error e) ↔
      ∃ e k, m.FirstHasAt line e k ∧ m.file? e.fileId = none := by
  constructor
  · rintro ⟨unknown, failed⟩
    rcases not_hasAt_or_exists_firstHasAt m line with missing | ⟨e, k, first⟩
    · simp [resolve_of_not_hasAt missing] at failed
    · cases declared : m.file? e.fileId with
      | none => exact ⟨e, k, first, declared⟩
      | some file => simp [resolve_of_firstHasAt first declared] at failed
  · rintro ⟨e, k, first, undeclared⟩
    exact ⟨_, resolve_of_undeclared first undeclared⟩

/-- From a map that was read, an assignment of a name that starts with an underscore changes no
field, and any other is refused by its field and changes nothing, or it changes that field alone and
is refused exactly if the map is not consistent then. So refusals change nothing exactly as long as
the map stays consistent; and a line of any state fails to resolve exactly if the first section that
has it names a file that is not declared. -/
theorem assignments_keep_iff_isConsistent {j : Json} (hread : read j = .ok m)
    (assignments : List (String × Json)) :
    (∀ state name value, m.Asks assignments state name value →
      name.toList.head? = some '_' ∧ state.assign name value = (state, .ok ()) ∨
      (∃ r, state.assign name value = (state, .error r)) ∨
      (∃ stored, state.assign name value = (stored, .ok ()) ∧ state.DiffersOnlyIn name stored ∧
        stored.IsConsistent) ∨
      ∃ stored e, state.assign name value =
          (stored, .error { model, issues := [{ kind := .value (UnknownFile.message e) }] }) ∧
        state.DiffersOnlyIn name stored ∧ stored.unknown? = some e) ∧
    ((∀ state name value, m.Asks assignments state name value →
        ∀ r, (state.assign name value).2 = .error r → (state.assign name value).1 = state) ↔
      ∀ state, m.Reaches assignments state → state.IsConsistent) ∧
    ∀ state, m.Reaches assignments state →
      (state.IsConsistent → ∀ line, ∃ found?, state.resolve line = .ok found?) ∧
      ∀ line, (∃ e, state.resolve line = .error e) ↔
        ∃ e k, state.FirstHasAt line e k ∧ state.file? e.fileId = none := by
  refine ⟨fun state name value _ => assign_cases state name value,
    unchanged_iff_isConsistent (isConsistent_of_read hread), fun state _ => ⟨?_, ?_⟩⟩
  · intro consistent line
    exact resolveBy_of_isConsistent line consistent
  · intro line
    exact resolve_eq_error_iff

def singleSection : LineMap where
  generatedFile := "A.java"
  className := "A"
  files := [(0, "a.jsp")]
  entries := [{
    inputStart := 1, outputStart := 1, one_le_inputStart := Nat.one_pos
    one_le_outputStart := Nat.one_pos, one_le_inputCount := Nat.one_pos }]

def singleSectionDocument : Json := .obj [
  ("generated_file", .str "A.java"), ("class_name", .str "A"),
  ("files", .obj [("0", .str "a.jsp")]),
  ("entries", .arr [.obj [("input_start_line", .int 1), ("output_start_line", .int 1)]])]

theorem read_singleSection : read singleSectionDocument = .ok singleSection := by
  rfl

theorem assignments_keep_iff_isConsistent_singleSection :
    read singleSectionDocument = .ok singleSection ∧
    ((∀ state name value,
        singleSection.Asks [("class_name", .int 5), ("files", .obj [])] state name value →
        ∀ r, (state.assign name value).2 = .error r → (state.assign name value).1 = state) ↔
      ∀ state, singleSection.Reaches [("class_name", .int 5), ("files", .obj [])] state →
        state.IsConsistent) :=
  ⟨read_singleSection, (assignments_keep_iff_isConsistent read_singleSection _).2.1⟩

/-- Taking its files away is refused, and yet leaves a map behind whose first line does not
resolve. -/
theorem not_assignments_keep : ¬ ∀ (j : Json) (m : LineMap) (assignments : List (String × Json)),
    read j = .ok m →
    (∀ state name value, m.Asks assignments state name value →
      ∀ r, (state.assign name value).2 = .error r → (state.assign name value).1 = state) ∧
    ∀ state, m.Reaches assignments state → ∀ line, ∃ found?, state.resolve line = .ok found? := by
  intro claimed
  obtain ⟨-, resolves⟩ :=
    claimed singleSectionDocument singleSection [("files", .obj [])] read_singleSection
  obtain ⟨found?, found⟩ :=
    resolves { singleSection with files := [] } ⟨_, List.prefix_rfl, rfl⟩ 1
  have failed : LineMap.resolve { singleSection with files := [] } 1 = .error ⟨0⟩ := rfl
  rw [failed] at found
  contradiction

end PageBuild.LineMap
