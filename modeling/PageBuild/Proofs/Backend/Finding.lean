import PageBuild.Backend
import PageBuild.Proofs.FileTree.Programs

/-! How the compilers that are known from the start are found. What a text names and what a backend
calls is said by relations between texts and programs. Looking for a compiler comes to a command
that the backend calls, to nothing if it calls none, or to the refusal of a path that is too long.
Where something is configured, it is all that the backend calls. -/
namespace PageBuild.Backend

open FileTree

variable {b : Backend} {s : Session} {name text found : String} {command : List String}

/-- A name is looked up: one with a slash stands for itself, any other for a program of that name
in a directory of the search path. -/
inductive LooksUp (s : Session) (name : String) : (found : String) → Prop
  | itself (slash : '/' ∈ name.toList) (there : s.files.IsProgramAt name) : LooksUp s name name
  | listed {directory : String} (noSlash : '/' ∉ name.toList) (listed : directory ∈ searchPath s)
    (there : s.files.IsProgramAt (under directory name)) : LooksUp s name (under directory name)

/-- A text names a program: as a path in normal form, or as a name that is looked up. -/
inductive Names (s : Session) (text : String) : (found : String) → Prop
  | path (there : s.files.IsProgramAt (PathName.ofText text).text) :
    Names s text (PathName.ofText text).text
  | lookUp {found : String} (looks : LooksUp s text found) : Names s text found

theorem LooksUp.isProgramAt (looks : LooksUp s name found) : s.files.IsProgramAt found := by
  cases looks with
  | itself slash there => exact there
  | listed noSlash listed there => exact there

theorem Names.isProgramAt (names : Names s text found) : s.files.IsProgramAt found := by
  cases names with
  | path there => exact there
  | lookUp looks => exact looks.isProgramAt

theorem lookUp_cases (s : Session) (name : String) :
    (∃ found, lookUp s name = some found ∧ LooksUp s name found) ∨
      lookUp s name = none ∧ ∀ found, ¬ LooksUp s name found := by
  unfold lookUp
  by_cases slash : '/' ∈ name.toList
  · rw [if_pos (by simpa using slash)]
    by_cases there : s.files.isProgram name = true
    · exact .inl ⟨name, if_pos there, .itself slash (isProgram_iff.mp there)⟩
    · refine .inr ⟨if_neg there, ?_⟩
      rintro found (⟨-, here⟩ | ⟨noSlash, -, -⟩)
      · exact there (isProgram_iff.mpr here)
      · exact noSlash slash
  · rw [if_neg (by simpa using slash)]
    cases first : ((searchPath s).map (under · name)).find? s.files.isProgram with
    | some found =>
      obtain ⟨directory, listed, rfl⟩ := List.mem_map.mp (List.mem_of_find?_eq_some first)
      exact .inl ⟨_, rfl, .listed slash listed (isProgram_iff.mp (List.find?_some first))⟩
    | none =>
      refine .inr ⟨rfl, ?_⟩
      rintro found (⟨here, -⟩ | ⟨-, listed, there⟩)
      · exact slash here
      · exact List.find?_eq_none.mp first _ (List.mem_map_of_mem listed) (isProgram_iff.mpr there)

theorem program_cases (s : Session) (text : String) :
    (∃ found, program s text = .ok (some found) ∧ Names s text found) ∨
      (program s text = .ok none ∧ ∀ found, ¬ Names s text found) ∨
      ∃ e, program s text = .error e ∧ s.files.isFile? (PathName.ofText text).text = .error e := by
  -- Where the path is that of no program, the text is looked up.
  have looked (isFile : Bool) (asked : s.files.isFile? (PathName.ofText text).text = .ok isFile)
      (noProgram : (isFile && s.files.isProgram (PathName.ofText text).text) = false)
      (missing : ¬ s.files.IsProgramAt (PathName.ofText text).text) :
      (∃ found, program s text = .ok (some found) ∧ Names s text found) ∨
        program s text = .ok none ∧ ∀ found, ¬ Names s text found := by
    have same : program s text = .ok (lookUp s text) := by
      simp [program, asked, bind, Except.bind, noProgram, pure, Except.pure]
    rw [same]
    rcases lookUp_cases s text with ⟨found, run, looks⟩ | ⟨run, none⟩
    · exact .inl ⟨found, by rw [run], .lookUp looks⟩
    · refine .inr ⟨by rw [run], ?_⟩
      rintro found (there | looks)
      · exact missing there
      · exact none found looks
  rcases s.files.isFile?_cases (PathName.ofText text).text with
    ⟨asked, -⟩ | ⟨asked, noFile⟩ | ⟨e, refused⟩
  · cases there : s.files.isProgram (PathName.ofText text).text with
    | true =>
      refine .inl ⟨_, ?_, .path (isProgram_iff.mp there)⟩
      simp [program, asked, bind, Except.bind, there, pure, Except.pure]
    | false =>
      have missing : ¬ s.files.IsProgramAt (PathName.ofText text).text := by
        rw [← isProgram_iff, there]
        nofun
      exact (looked true asked there missing).imp_right .inl
  · exact (looked false asked rfl fun there => noFile there.isFileAt).imp_right .inl
  · refine .inr (.inr ⟨e, ?_, refused⟩)
    simp [program, refused, bind, Except.bind]

def installation? (s : Session) : Option String :=
  (given? (s.environment? "JAVA_HOME")).map fun home =>
    (PathName.ofTexts [home, "bin", "javac"]).text

theorem installed_cases (s : Session) :
    (∃ path, installation? s = some path ∧ installed s = .ok (some path) ∧
        s.files.IsFileAt path) ∨
      (installed s = .ok none ∧ ∀ path, installation? s = some path → ¬ s.files.IsFileAt path) ∨
      ∃ path e, installation? s = some path ∧ installed s = .error e ∧
        s.files.isFile? path = .error e := by
  unfold installed installation?
  cases given? (s.environment? "JAVA_HOME") with
  | none => simp
  | some home =>
    dsimp only [Option.map_some]
    rcases s.files.isFile?_cases (PathName.ofTexts [home, "bin", "javac"]).text with
      ⟨asked, there⟩ | ⟨asked, missing⟩ | ⟨e, refused⟩
    · exact .inl ⟨_, rfl, by simp [asked, bind, Except.bind, pure, Except.pure], there⟩
    · refine .inr (.inl ⟨by simp [asked, bind, Except.bind, pure, Except.pure], ?_⟩)
      rintro path ⟨⟩
      exact missing
    · exact .inr (.inr ⟨_, e, rfl, by simp [refused, bind, Except.bind], refused⟩)

/-- The commands that a backend calls: a jar with the launcher, if one is configured, or else the
configured executable, or else what it knows itself. A compiler of the Java development kit is that
of the installation if it has one, and that of the search path if it has none. -/
inductive Calls (b : Backend) (s : Session) : (command : List String) → Prop
  | jar {jar : PathName} {java : String} (given : b.jar = some jar) (looks : LooksUp s "java" java)
    (there : s.files.IsFileAt jar.text) : Calls b s [java, "-jar", jar.text]
  | executable {text found : String} (noJar : b.jar = none) (given : b.executable = some text)
    (names : Names s text found) : Calls b s [found]
  | script {found : String} (kind : b.finder = .ecj) (noJar : b.jar = none)
    (free : b.executable = none) (names : Names s "ecj" found) : Calls b s [found]
  | installation {path : String} (kind : b.finder = .javac) (noJar : b.jar = none)
    (free : b.executable = none) (home : installation? s = some path)
    (there : s.files.IsFileAt path) : Calls b s [path]
  | listed {found : String} (kind : b.finder = .javac) (noJar : b.jar = none)
    (free : b.executable = none)
    (bare : ∀ path, installation? s = some path → ¬ s.files.IsFileAt path)
    (looks : LooksUp s "javac" found) : Calls b s [found]

inductive Asks (b : Backend) (s : Session) : (path : String) → Prop
  | jar {jar : PathName} (given : b.jar = some jar) : Asks b s jar.text
  | executable {text : String} (noJar : b.jar = none) (given : b.executable = some text) :
    Asks b s (PathName.ofText text).text
  | script (kind : b.finder = .ecj) (noJar : b.jar = none) (free : b.executable = none) :
    Asks b s (PathName.ofText "ecj").text
  | installation {path : String} (kind : b.finder = .javac) (noJar : b.jar = none)
    (free : b.executable = none) (home : installation? s = some path) : Asks b s path

theorem calls_iff_of_jar {jar : PathName} (given : b.jar = some jar) :
    b.Calls s command ↔ ∃ java, command = [java, "-jar", jar.text] ∧ LooksUp s "java" java ∧
      s.files.IsFileAt jar.text := by
  constructor
  · rintro (⟨other, looks, there⟩ | ⟨noJar, -, -⟩ | ⟨-, noJar, -, -⟩ | ⟨-, noJar, -, -, -⟩ |
      ⟨-, noJar, -, -, -⟩)
    · obtain rfl := Option.some.inj (given.symm.trans other)
      exact ⟨_, rfl, looks, there⟩
    all_goals simp [given] at noJar
  · rintro ⟨java, rfl, looks, there⟩
    exact .jar given looks there

theorem calls_iff_of_executable (noJar : b.jar = none) (given : b.executable = some text) :
    b.Calls s command ↔ ∃ found, command = [found] ∧ Names s text found := by
  constructor
  · rintro (⟨jar, -, -⟩ | ⟨-, other, names⟩ | ⟨-, -, free, -⟩ | ⟨-, -, free, -, -⟩ |
      ⟨-, -, free, -, -⟩)
    · simp [noJar] at jar
    · obtain rfl := Option.some.inj (given.symm.trans other)
      exact ⟨_, rfl, names⟩
    all_goals simp [given] at free
  · rintro ⟨found, rfl, names⟩
    exact .executable noJar given names

theorem calls_iff_of_script (kind : b.finder = .ecj) (noJar : b.jar = none)
    (free : b.executable = none) :
    b.Calls s command ↔ ∃ found, command = [found] ∧ Names s "ecj" found := by
  constructor
  · rintro (⟨jar, -, -⟩ | ⟨-, given, -⟩ | ⟨-, -, -, names⟩ | ⟨other, -, -, -, -⟩ |
      ⟨other, -, -, -, -⟩)
    · simp [noJar] at jar
    · simp [free] at given
    · exact ⟨_, rfl, names⟩
    all_goals simp [kind] at other
  · rintro ⟨found, rfl, names⟩
    exact .script kind noJar free names

theorem calls_iff_of_javac (kind : b.finder = .javac) (noJar : b.jar = none)
    (free : b.executable = none) :
    b.Calls s command ↔
      (∃ path, command = [path] ∧ installation? s = some path ∧ s.files.IsFileAt path) ∨
      (∀ path, installation? s = some path → ¬ s.files.IsFileAt path) ∧
        ∃ found, command = [found] ∧ LooksUp s "javac" found := by
  constructor
  · rintro (⟨jar, -, -⟩ | ⟨-, given, -⟩ | ⟨other, -, -, -⟩ | ⟨-, -, -, home, there⟩ |
      ⟨-, -, -, bare, looks⟩)
    · simp [noJar] at jar
    · simp [free] at given
    · simp [kind] at other
    · exact .inl ⟨_, rfl, home, there⟩
    · exact .inr ⟨bare, _, rfl, looks⟩
  · rintro (⟨path, rfl, home, there⟩ | ⟨bare, found, rfl, looks⟩)
    · exact .installation kind noJar free home there
    · exact .listed kind noJar free bare looks

inductive Locates (b : Backend) (s : Session) : Except OsError (Option (List String)) → Prop
  | found {command : List String} (calls : b.Calls s command) : Locates b s (.ok (some command))
  | missing (lacks : ∀ command, ¬ b.Calls s command) : Locates b s (.ok none)
  | refused {path : String} {e : OsError} (asks : b.Asks s path)
    (refused : s.files.isFile? path = .error e) : Locates b s (.error e)

/-- A backend that calls what a text names. -/
theorem locates_program (asks : b.Asks s (PathName.ofText text).text)
    (calls : ∀ command, b.Calls s command ↔ ∃ found, command = [found] ∧ Names s text found) :
    b.Locates s (do return (← program s text).map ([·])) := by
  rcases program_cases s text with ⟨found, run, names⟩ | ⟨run, lacks⟩ | ⟨e, run, refused⟩
  · rw [run]
    exact .found ((calls _).mpr ⟨found, rfl, names⟩)
  · rw [run]
    refine .missing fun command called => ?_
    obtain ⟨found, -, names⟩ := (calls command).mp called
    exact lacks found names
  · rw [run]
    exact .refused asks refused

theorem locates_javac (kind : b.finder = .javac) (noJar : b.jar = none) :
    b.Locates s (b.locate s) := by
  unfold locate
  rw [kind]
  dsimp only
  split
  · next text given =>
    exact locates_program (.executable noJar given) fun _ => calls_iff_of_executable noJar given
  · next free =>
    rcases installed_cases s with
      ⟨path, home, run, there⟩ | ⟨run, bare⟩ | ⟨path, e, home, run, refused⟩
    · rw [run]
      exact .found (.installation kind noJar free home there)
    · rw [run]
      dsimp only [bind, Except.bind]
      rcases lookUp_cases s "javac" with ⟨found, run, looks⟩ | ⟨run, lacks⟩
      · rw [run]
        exact .found (.listed kind noJar free bare looks)
      · rw [run]
        refine .missing fun command called => ?_
        rcases (calls_iff_of_javac kind noJar free).mp called with
          ⟨path, -, home, there⟩ | ⟨-, found, -, looks⟩
        · exact bare path home there
        · exact lacks found looks
    · rw [run]
      exact .refused (.installation kind noJar free home) refused

theorem locates_ecj (kind : b.finder = .ecj) : b.Locates s (b.locate s) := by
  unfold locate
  rw [kind]
  dsimp only
  split
  · next jar given =>
    rcases lookUp_cases s "java" with ⟨java, run, looks⟩ | ⟨run, lacks⟩
    · rw [run]
      dsimp only
      rcases s.files.isFile?_cases jar.text with
        ⟨asked, there⟩ | ⟨asked, missing⟩ | ⟨e, refused⟩
      · rw [asked]
        exact .found (.jar given looks there)
      · rw [asked]
        refine .missing fun command called => ?_
        obtain ⟨-, -, -, there⟩ := (calls_iff_of_jar given).mp called
        exact missing there
      · rw [refused]
        exact .refused (.jar given) refused
    · rw [run]
      refine .missing fun command called => ?_
      obtain ⟨java, -, looks, -⟩ := (calls_iff_of_jar given).mp called
      exact lacks java looks
  · next noJar =>
    cases given : b.executable with
    | some text =>
      exact locates_program (.executable noJar given) fun _ => calls_iff_of_executable noJar given
    | none =>
      exact locates_program (.script kind noJar given) fun _ => calls_iff_of_script kind noJar given

end PageBuild.Backend
