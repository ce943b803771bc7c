import PageBuild.Proofs.Context.Making

/-! The encoding of a context, given to it again: assigned to it, or among its settings to a new
context of its paths. A context takes all that it has, but for the encoding of Mac Roman. -/
namespace PageBuild.Context

open Schema Charset

variable {c stored : Context} {name given : String} {value : Json}

def settings (c : Context) : List (String × Json) := [
  ("class_path", .str c.classPath),
  ("java_encoding", .str c.encoding),
  ("class_debug_info", .bool c.debugInfo),
  ("compiler_source_vm", c.sourceLevel.elim .null .str),
  ("compiler_target_vm", c.targetLevel.elim .null .str),
  ("keep_generated", .bool c.keepGenerated),
  ("prototype_mode", .bool c.prototype),
  ("smap_suppressed", .bool c.smapSuppressed),
  ("extra_options", .arr (c.extraOptions.map .str))]

def unknownEncoding (name : String) : Issue :=
  { kind := .value (Charset.Fault.unknown name).message, place := [.member "java_encoding"] }

/-- What becomes of a context that is given its own encoding: it stays as it is, unless that is Mac
Roman, whose name is refused. -/
def retaken (c : Context) : Except Report Context :=
  if c.encoding = macRoman.java then .error { model, issues := [unknownEncoding c.encoding] }
  else .ok c

theorem trimmed_str {s : String} (h : IsTrimmed s) : trimmed (.str s) = .ok s := by
  refine (bind_pure_of_ok _ (encodable_eq_ok_iff.mpr ⟨h.1, rfl⟩)).trans ?_
  rw [h.2]

theorem optional_elim {level : Option String} (h : ∀ l ∈ level, IsTrimmed l) :
    Schema.optional trimmed (level.elim .null .str) = .ok level := by
  cases level with
  | none => rfl
  | some l => exact congrArg (some <$> ·) (trimmed_str (h l rfl))

theorem listFrom_map_str {options : List String} (h : ∀ option ∈ options, IsTrimmed option)
    (index : Nat) : listFrom trimmed index (options.map .str) = .ok options := by
  induction options generalizing index with
  | nil => rfl
  | cons option rest ih =>
    rw [List.forall_mem_cons] at h
    simp [listFrom, trimmed_str h.1, ih h.2, within]

theorem list_map_str {options : List String} (h : ∀ option ∈ options, IsTrimmed option) :
    list trimmed (.arr (options.map .str)) = .ok options :=
  listFrom_map_str h 0

/-- The encoding of a context, read again. -/
theorem charset_encoding (tidy : c.IsTidy) : charset (.str c.encoding) =
    if c.encoding = macRoman.java then fail (.value (Charset.Fault.unknown c.encoding).message)
    else .ok c.encoding := by
  obtain ⟨given, known⟩ := tidy.known
  have again := javaName_javaName known
  have read : Readers.json.text (.str c.encoding) = .ok c.encoding := trimmed_str tidy.encoding
  unfold charset Readers.charset
  rw [read]
  refine (if_neg tidy.named).trans ?_
  rw [again]
  by_cases odd : c.encoding = macRoman.java
  · simp only [if_pos odd]
  · simp only [if_neg odd]

def encodingField : Schema.Field Context where
  name := "java_encoding"
  store j c := do return { c with encoding := ← charset j }

theorem encodingField_store (tidy : c.IsTidy) (r : Context) :
    encodingField.store (.str c.encoding) r =
      if c.encoding = macRoman.java then fail (.value (Charset.Fault.unknown c.encoding).message)
      else .ok { r with encoding := c.encoding } := by
  dsimp only [encodingField]
  rw [charset_encoding tidy]
  split <;> rfl

theorem assign_encoding (tidy : c.IsTidy) :
    c.assign "java_encoding" (.str c.encoding) = c.retaken := by
  have found : fields.find? (·.name = "java_encoding") = some encodingField := rfl
  unfold Context.assign Schema.assign retaken
  rw [found]
  dsimp only
  rw [encodingField_store tidy]
  by_cases odd : c.encoding = macRoman.java <;>
  simp [odd, within, report, fail, unknownEncoding]

/-- The fields after that of the encoding take what the context has. -/
theorem stores_settings (tidy : c.IsTidy) (encoding : String) :
    Stores c.settings (settingFields.drop 2)
      { c with
        encoding
        debugInfo := true, sourceLevel := none, targetLevel := none, keepGenerated := true
        «prototype» := false, smapSuppressed := false, extraOptions := [] }
      { c with encoding } :=
  .given rfl (bind_pure_of_ok _ rfl) <|
  .given rfl (bind_pure_of_ok _ (optional_elim tidy.sourceLevel)) <|
  .given rfl (bind_pure_of_ok _ (optional_elim tidy.targetLevel)) <|
  .given rfl (bind_pure_of_ok _ rfl) <|
  .given rfl (bind_pure_of_ok _ rfl) <|
  .given rfl (bind_pure_of_ok _ rfl) <|
  .given rfl (bind_pure_of_ok _ (list_map_str tidy.extraOptions)) <|
  .nil _

theorem ofPaths_settings (tidy : c.IsTidy) (source : c.sourceFile.IsSource) :
    Context.ofPaths c.scratchDir c.sourceFile c.settings = c.retaken := by
  by_cases odd : c.encoding = macRoman.java
  · have refused (r : Context) := encodingField_store tidy r
    simp only [if_pos odd] at refused
    have read : readFields c.settings settingFields
        { scratchDir := c.scratchDir, sourceFile := c.sourceFile } =
          ({ c with encoding := "UTF-8" }, [unknownEncoding c.encoding]) :=
      (readFields_of_took rfl (bind_pure_of_ok _ (trimmed_str tidy.classPath))).trans
        (Stores.readFields_of_refused rfl (refused _) (stores_settings tidy "UTF-8"))
    unfold Context.ofPaths retaken
    rw [read, if_pos odd, checkSource_eq_ok_iff.mpr ⟨source, rfl⟩]
    rfl
  · have took (r : Context) := encodingField_store tidy r
    simp only [if_neg odd] at took
    rw [retaken, if_neg odd, ofPaths_eq_ok_iff]
    have stores : Stores c.settings settingFields
        { scratchDir := c.scratchDir, sourceFile := c.sourceFile } c :=
      .given rfl (bind_pure_of_ok _ (trimmed_str tidy.classPath)) <|
      .given rfl (took _) (stores_settings tidy c.encoding)
    exact ⟨source, stores.readFields_eq⟩

theorem Sets.encoding_eq (sets : Sets .json value c name stored) (other : name ≠ "java_encoding") :
    stored.encoding = c.encoding := by
  cases sets with
  | encoding read => exact absurd rfl other
  | _ => rfl

/-- A document gives its context the encoding that it names, as that is read. -/
theorem charset_of_read {members : List (String × Json)}
    (found : Json.find? members "java_encoding" = some value)
    (accepted : Context.read (.obj members) = .ok stored) :
    charset value = .ok stored.encoding := by
  obtain ⟨members', same, stores⟩ := stores_of_read accepted
  obtain rfl := Json.obj.inj same
  have parts : fields = (pathFields ++ settingFields.take 1) ++
      encodingField :: settingFields.drop 2 := rfl
  rw [parts] at stores
  obtain ⟨middle, taken, took, later⟩ := stores.exists_store found
  obtain ⟨java, read, rfl⟩ := exists_of_bind_pure took
  have others : "java_encoding" ∉ (settingFields.drop 2).map (·.name) := by decide
  have kept : java = stored.encoding := by
    refine later.keeps (P := fun r => java = r.encoding) ?_ rfl
    intro field member value r stored took same
    have sets := sets_of_store
      (mem_fields_of_mem_settingFields (List.mem_of_mem_drop member)) took
    have other : field.name ≠ "java_encoding" := by
      intro named
      exact others (named ▸ List.mem_map_of_mem member)
    exact same.trans (sets.encoding_eq other).symm
  rw [read, kept]

/-- The name that was found for an encoding is found for itself, and a context that has it takes it
again, by assignment, with its other settings or from a document, unless the encoding is Mac Roman:
then the name is unknown and refused. -/
theorem retakes_encoding (known : javaName given = .ok name) (made : c.IsMade) :
    javaName name = (if name = macRoman.java then .error (.unknown name) else .ok name) ∧
    (name = macRoman.java ↔ find? (plain given) = some (some macRoman)) ∧
    c.assign "java_encoding" (.str c.encoding) = c.retaken ∧
    Context.ofPaths c.scratchDir c.sourceFile c.settings = c.retaken ∧
    ∀ members stored, Json.find? members "java_encoding" = some (.str c.encoding) →
      Context.read (.obj members) = .ok stored →
        stored.encoding = c.encoding ∧ c.encoding ≠ macRoman.java := by
  refine ⟨javaName_javaName known, eq_java_macRoman_iff known, assign_encoding made.isTidy,
    ofPaths_settings made.isTidy made.isSource, ?_⟩
  intro members stored found accepted
  have read := charset_of_read found accepted
  rw [charset_encoding made.isTidy] at read
  by_cases odd : c.encoding = macRoman.java
  · simp [odd, fail] at read
  · rw [if_neg odd] at read
    exact ⟨(Except.ok.inj read).symm, odd⟩

def pageIn (encoding : String) : Context where
  scratchDir := .ofText "out"
  sourceFile := .ofText "A.java"
  encoding

theorem isMade_pageIn (given : String) (read : Context.ofPaths (.ofText "out") (.ofText "A.java")
    [("java_encoding", .str given)] = .ok (pageIn name)) : (pageIn name).IsMade :=
  .ofPaths read

theorem retakes_encoding_latin :
    javaName "latin-1" = .ok "ISO-8859-1" ∧ (pageIn "ISO-8859-1").IsMade ∧
      (pageIn "ISO-8859-1").assign "java_encoding" (.str "ISO-8859-1") =
        .ok (pageIn "ISO-8859-1") := by
  have known : javaName "latin-1" = .ok "ISO-8859-1" := rfl
  have made : (pageIn "ISO-8859-1").IsMade := isMade_pageIn "latin-1" rfl
  exact ⟨known, made, (retakes_encoding known made).2.2.1.trans (if_neg (by decide))⟩

/-- Mac Roman is known by its names, but not by the name that its contexts have. -/
theorem not_retakes_encoding :
    ∃ (given name : String) (c : Context),
      javaName given = .ok name ∧ javaName name = .error (.unknown name) ∧
      c.IsMade ∧ c.encoding = name ∧
      c.assign "java_encoding" (.str c.encoding) =
        .error { model, issues := [unknownEncoding name] } ∧
      Context.ofPaths c.scratchDir c.sourceFile c.settings =
        .error { model, issues := [unknownEncoding name] } :=
  ⟨"mac-roman", "x-MacRoman", pageIn "x-MacRoman", rfl, rfl,
    isMade_pageIn "mac-roman" rfl, rfl, rfl, rfl⟩

end PageBuild.Context
