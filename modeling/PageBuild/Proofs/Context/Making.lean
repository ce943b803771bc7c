import PageBuild.Proofs.Charset.Naming
import PageBuild.Proofs.Context.Fields

/-! Contexts that were accepted, at first or by assignments. What a field can store of a value is
said once, by `Sets`. Made contexts have a source, no white space at the ends of their texts, and an
encoding under a name that was found for it. -/
namespace PageBuild.Context

open Schema

variable {ν : Type} {r : Readers ν} {members : List (String × ν)} {value : ν}
  {field : Schema.Field Context ν} {c stored : Context} {name : String} {j : Json}

/-- The field of a name takes a value: what is read from it stands in the field, and the others are
as they were. -/
inductive Sets (r : Readers ν) (value : ν) (c : Context) :
    (name : String) → (stored : Context) → Prop
  | scratchDir {p : PathName} (read : r.path value = .ok p) :
    Sets r value c "scratch_dir" { c with scratchDir := p }
  | sourceFile {p : PathName} (read : r.path value = .ok p) (source : p.IsSource) :
    Sets r value c "source_file" { c with sourceFile := p }
  | classPath {s : String} (read : r.text value = .ok s) :
    Sets r value c "class_path" { c with classPath := s }
  | encoding {java : String} (read : r.charset value = .ok java) :
    Sets r value c "java_encoding" { c with encoding := java }
  | debugInfo {b : Bool} (read : r.bool value = .ok b) :
    Sets r value c "class_debug_info" { c with debugInfo := b }
  | sourceLevel {level : Option String} (read : r.level value = .ok level) :
    Sets r value c "compiler_source_vm" { c with sourceLevel := level }
  | targetLevel {level : Option String} (read : r.level value = .ok level) :
    Sets r value c "compiler_target_vm" { c with targetLevel := level }
  | keepGenerated {b : Bool} (read : r.bool value = .ok b) :
    Sets r value c "keep_generated" { c with keepGenerated := b }
  | «prototype» {b : Bool} (read : r.bool value = .ok b) :
    Sets r value c "prototype_mode" { c with prototype := b }
  | smapSuppressed {b : Bool} (read : r.bool value = .ok b) :
    Sets r value c "smap_suppressed" { c with smapSuppressed := b }
  | extraOptions {options : List String} (read : r.texts value = .ok options) :
    Sets r value c "extra_options" { c with extraOptions := options }

theorem checkSource_eq_ok_iff {p q : PathName} :
    checkSource p = .ok q ↔ p.IsSource ∧ p = q := by
  unfold checkSource
  split
  · next source => simp [source]
  · next blank => simp [blank, fail]

theorem checkEncoding_eq_ok_iff {given : String} :
    checkEncoding given = .ok name ↔ given ≠ "" ∧ Charset.javaName given = .ok name := by
  unfold checkEncoding
  by_cases empty : given = ""
  · simp [empty, fail]
  · rw [if_neg empty, and_iff_right empty]
    cases Charset.javaName given <;> simp [fail]

theorem Readers.source_eq_ok_iff {p : PathName} :
    r.source value = .ok p ↔ r.path value = .ok p ∧ p.IsSource := by
  unfold Readers.source
  rw [Except.bind_eq_ok_iff]
  constructor
  · rintro ⟨q, read, checked⟩
    obtain ⟨source, rfl⟩ := checkSource_eq_ok_iff.mp checked
    exact ⟨read, source⟩
  · rintro ⟨read, source⟩
    exact ⟨p, read, checkSource_eq_ok_iff.mpr ⟨source, rfl⟩⟩

theorem Readers.charset_eq_ok_iff : r.charset value = .ok name ↔
    ∃ given, r.text value = .ok given ∧ given ≠ "" ∧ Charset.javaName given = .ok name := by
  unfold Readers.charset
  rw [Except.bind_eq_ok_iff]
  simp only [checkEncoding_eq_ok_iff]

theorem sets_of_store (member : field ∈ r.fields) (stores : field.store value c = .ok stored) :
    Sets r value c field.name stored := by
  simp only [Readers.fields, Readers.pathFields, Readers.settingFields, List.cons_append,
    List.nil_append, List.mem_cons, List.not_mem_nil, or_false] at member
  rcases member with rfl | rfl | rfl | rfl | rfl | rfl | rfl | rfl | rfl | rfl | rfl
  all_goals obtain ⟨a, read, rfl⟩ := exists_of_bind_pure stores
  case' inr.inl =>
    obtain ⟨read, source⟩ := Readers.source_eq_ok_iff.mp read
    exact .sourceFile read source
  all_goals
    constructor
    exact read

theorem mem_fields_of_mem_settingFields (member : field ∈ r.settingFields) : field ∈ r.fields :=
  List.mem_append_right r.pathFields member

theorem sets_of_assign {value : Json} (accepted : c.assign name value = .ok stored) :
    Sets .json value c name stored := by
  obtain ⟨field, found, stores⟩ := assign_eq_ok_iff.mp (report_eq_ok_iff.mp accepted)
  obtain rfl : field.name = name := by simpa using List.find?_some found
  exact sets_of_store (List.mem_of_find?_eq_some found) stores

/-- A context is made of members that the fields took. -/
theorem stores_of_create (tells : r.IsTelling) (made : create r members = .ok c) :
    Stores members r.fields blank c :=
  (isSeparate_fields tells).stores (report_eq_ok_iff.mp made)

/-- A document is read by making a context of its members, which the fields took. -/
theorem stores_of_read (accepted : Context.read j = .ok c) :
    ∃ members, j = .obj members ∧ Stores members fields blank c := by
  cases j with
  | obj members => exact ⟨members, rfl, stores_of_create isTelling_json accepted⟩
  | _ => cases accepted

/-- Contexts of given paths are those with a source whose settings the fields took. -/
theorem ofPaths_eq_ok_iff {scratchDir sourceFile : PathName} {settings : List (String × Json)} :
    Context.ofPaths scratchDir sourceFile settings = .ok c ↔
      sourceFile.IsSource ∧
        readFields settings settingFields { scratchDir, sourceFile } = (c, []) := by
  unfold Context.ofPaths report
  obtain ⟨r, issues⟩ := readFields settings settingFields { scratchDir, sourceFile }
  by_cases source : sourceFile.IsSource
  · have checked := checkSource_eq_ok_iff.mpr ⟨source, rfl⟩
    cases issues <;> simp [checked, within, source]
  · obtain ⟨issues, refused⟩ : ∃ issues, checkSource sourceFile = .error issues := by
      simp [checkSource, source, fail]
    simp [refused, within, source]

theorem stores_of_ofPaths {scratchDir sourceFile : PathName} {settings : List (String × Json)}
    (accepted : Context.ofPaths scratchDir sourceFile settings = .ok c) :
    sourceFile.IsSource ∧ Stores settings settingFields { scratchDir, sourceFile } c := by
  obtain ⟨source, clean⟩ := ofPaths_eq_ok_iff.mp accepted
  refine ⟨source, stores_of_readFields (fun field member value => ?_) clean⟩
  have separate := isSeparate_fields isTelling_json
  exact (separate.treats field (mem_fields_of_mem_settingFields member) value).tells

/-- A context that was read, or given by paths and settings, and that values were assigned to. -/
inductive IsMade : Context → Prop
  | read {j : Json} {c : Context} (accepted : Context.read j = .ok c) : IsMade c
  | ofPaths {scratchDir sourceFile : PathName} {settings : List (String × Json)} {c : Context}
    (accepted : Context.ofPaths scratchDir sourceFile settings = .ok c) : IsMade c
  | assign {c stored : Context} {name : String} {value : Json} (made : IsMade c)
    (accepted : c.assign name value = .ok stored) : IsMade stored

/-- What the defaults have and every field keeps is had by all made contexts. -/
theorem IsMade.keeps {P : Context → Prop} (made : c.IsMade)
    (defaults : ∀ scratchDir sourceFile, P { scratchDir, sourceFile })
    (step : ∀ {c stored : Context} {name : String} {value : Json},
      Sets .json value c name stored → P c → P stored) : P c := by
  induction made with
  | read accepted =>
    obtain ⟨members, -, stores⟩ := stores_of_read accepted
    exact stores.keeps (fun field member value c stored took => step (sets_of_store member took))
      (defaults _ _)
  | ofPaths accepted =>
    exact (stores_of_ofPaths accepted).2.keeps (fun field member value c stored took =>
      step (sets_of_store (mem_fields_of_mem_settingFields member) took)) (defaults _ _)
  | assign made accepted ih => exact step (sets_of_assign accepted) ih

theorem Sets.isSource (sets : Sets r value c name stored) (source : c.sourceFile.IsSource) :
    stored.sourceFile.IsSource := by
  cases sets with
  | sourceFile read given => exact given
  | _ => exact source

/-- The blank context has no source, so that of a context that was made is its own. -/
theorem isSource_of_stores (stores : Stores members r.fields blank c) : c.sourceFile.IsSource := by
  obtain ⟨-, first, -, -, rest⟩ := exists_store_of_required rfl stores
  obtain ⟨given, second, -, took, later⟩ := exists_store_of_required rfl rest
  obtain ⟨p, read, rfl⟩ := exists_of_bind_pure took
  exact later.keeps (fun field member value c stored took =>
    (sets_of_store (mem_fields_of_mem_settingFields member) took).isSource)
    (Readers.source_eq_ok_iff.mp read).2

theorem IsMade.isSource (made : c.IsMade) : c.sourceFile.IsSource := by
  induction made with
  | read accepted =>
    obtain ⟨members, -, stores⟩ := stores_of_read accepted
    exact isSource_of_stores stores
  | ofPaths accepted =>
    obtain ⟨source, stores⟩ := stores_of_ofPaths accepted
    exact stores.keeps (fun field member value c stored took =>
      (sets_of_store (mem_fields_of_mem_settingFields member) took).isSource) source
  | assign made accepted ih => exact (sets_of_assign accepted).isSource ih

def IsEncoded (c : Context) : Prop := ∃ given, Charset.javaName given = .ok c.encoding

theorem isEncoded_defaults (scratchDir sourceFile : PathName) :
    IsEncoded { scratchDir, sourceFile } :=
  ⟨"UTF-8", (by rfl : Charset.javaName "UTF-8" = .ok "UTF-8")⟩

theorem Sets.isEncoded (sets : Sets r value c name stored) (encoded : c.IsEncoded) :
    stored.IsEncoded := by
  cases sets with
  | encoding read =>
    obtain ⟨given, -, -, known⟩ := Readers.charset_eq_ok_iff.mp read
    exact ⟨given, known⟩
  | _ => exact encoded

theorem isEncoded_of_stores (stores : Stores members r.fields blank c) : c.IsEncoded :=
  stores.keeps (fun _ member _ _ _ took => (sets_of_store member took).isEncoded)
    (isEncoded_defaults _ _)

/-! The settings of made contexts are read as they are. -/

def IsTrimmed (s : String) : Prop := Text.IsEncodable s ∧ Text.stripWhite s = s

instance (s : String) : Decidable (IsTrimmed s) := inferInstanceAs (Decidable (_ ∧ _))

structure IsTidy (c : Context) : Prop where
  classPath : IsTrimmed c.classPath
  encoding : IsTrimmed c.encoding
  named : c.encoding ≠ ""
  known : c.IsEncoded
  sourceLevel : ∀ level ∈ c.sourceLevel, IsTrimmed level
  targetLevel : ∀ level ∈ c.targetLevel, IsTrimmed level
  extraOptions : ∀ option ∈ c.extraOptions, IsTrimmed option

theorem encodable_eq_ok_iff {given s : String} :
    encodable given = .ok s ↔ Text.IsEncodable given ∧ given = s := by
  unfold encodable
  split
  · next sound => simp [sound]
  · next odd => simp [odd, fail]

theorem isTrimmed_of_trimmed {s : String} (h : trimmed j = .ok s) : IsTrimmed s := by
  obtain ⟨given, -, h⟩ := Except.bind_eq_ok_iff.mp h
  obtain ⟨given, read, rfl⟩ := exists_of_bind_pure h
  obtain ⟨sound, rfl⟩ := encodable_eq_ok_iff.mp read
  constructor
  · intro c member
    simp only [Text.stripWhite, String.toList_ofList] at member
    exact sound c (Text.trim_subset _ _ member)
  · simp [Text.stripWhite]

theorem isTrimmed_of_optional {level? : Option String}
    (h : Schema.optional trimmed j = .ok level?) : ∀ level ∈ level?, IsTrimmed level := by
  unfold Schema.optional at h
  split at h
  · cases h
    simp
  · obtain ⟨level, read, rfl⟩ := exists_of_bind_pure h
    simpa using isTrimmed_of_trimmed read

theorem isTrimmed_of_listFrom {items : List Json} {index : Nat} {options : List String}
    (h : listFrom trimmed index items = .ok options) : ∀ option ∈ options, IsTrimmed option := by
  induction items generalizing index options with
  | nil =>
    cases h
    simp
  | cons item rest ih =>
    rw [listFrom] at h
    split at h
    · next option more first later =>
      cases h
      exact List.forall_mem_cons.mpr
        ⟨isTrimmed_of_trimmed (within_eq_ok_iff.mp first), ih later⟩
    all_goals cases h

theorem isTrimmed_of_list {options : List String} (h : list trimmed j = .ok options) :
    ∀ option ∈ options, IsTrimmed option := by
  cases j with
  | arr items => exact isTrimmed_of_listFrom h
  | _ => cases h

/-- The name of an encoding is the trimmed one that was given, or one of a fixed list. -/
theorem encoding_of_charset (h : charset j = .ok name) :
    IsTrimmed name ∧ name ≠ "" ∧ ∃ given, Charset.javaName given = .ok name := by
  obtain ⟨given, trimmed, named, known⟩ := Readers.charset_eq_ok_iff.mp h
  obtain ⟨-, ⟨-, rfl⟩ | ⟨c, found, rfl⟩⟩ := Charset.javaName_eq_ok_iff.mp known
  · exact ⟨isTrimmed_of_trimmed trimmed, named, name, known⟩
  · obtain ⟨encodable, -, nonempty, stripped⟩ :=
      Charset.java_plain (Charset.mem_renamed_of_find? found)
    exact ⟨⟨encodable, stripped⟩, nonempty, given, known⟩

theorem isTidy_defaults (scratchDir sourceFile : PathName) :
    IsTidy { scratchDir, sourceFile } where
  classPath := (by decide : IsTrimmed "")
  encoding := (by decide : IsTrimmed "UTF-8")
  named := by simp
  known := isEncoded_defaults scratchDir sourceFile
  sourceLevel := by simp
  targetLevel := by simp
  extraOptions := by simp

theorem Sets.isTidy {value : Json} (sets : Sets .json value c name stored) (tidy : c.IsTidy) :
    stored.IsTidy := by
  cases sets with
  | classPath read => exact { tidy with classPath := isTrimmed_of_trimmed read }
  | encoding read =>
    obtain ⟨encoding, named, known⟩ := encoding_of_charset read
    exact { tidy with encoding, named, known }
  | sourceLevel read => exact { tidy with sourceLevel := isTrimmed_of_optional read }
  | targetLevel read => exact { tidy with targetLevel := isTrimmed_of_optional read }
  | extraOptions read => exact { tidy with extraOptions := isTrimmed_of_list read }
  | _ => exact { tidy with }

theorem IsMade.isTidy (made : c.IsMade) : c.IsTidy := made.keeps isTidy_defaults Sets.isTidy

end PageBuild.Context
