import PageBuild.Proofs.Backend.Finding
import PageBuild.Proofs.Handle.Opening
import PageBuild.Proofs.Session.Failures

/-! Acquiring a compiler. A handle is for a command that its backend calls, whose first word is the
path of a file; that file can be executed unless it is the compiler of a Java installation, which
nobody asks about that. A backend that calls nothing hands out no handle, whatever else there is. -/
namespace PageBuild.Backend

open Session FileTree

variable {t : Toolchain} {settings : List Setting} {b b' : Backend} {encoding : String}
  {s s' : Session} {h : Handle} {e : Failure} {command : List String}

/-! Backends as they are made. -/

theorem set_keeps {setting : Setting} (hset : b.set setting = .ok b') :
    b'.toToolchain = b.toToolchain ∧ (b.finder ≠ .ecj → b'.jar = b.jar) := by
  cases setting with
  | jar path =>
    simp only [set] at hset
    split at hset
    · next kind =>
      cases hset
      exact ⟨rfl, fun other => absurd kind other⟩
    · cases hset
  | other name => cases hset
  | _ =>
    cases hset
    exact ⟨rfl, fun _ => rfl⟩

theorem make_keeps (made : make t settings = .ok b) :
    b.toToolchain = t ∧ (t.finder ≠ .ecj → b.jar = none) := by
  unfold make at made
  split at made
  · cases made
  · have run (start : Backend) (made : settings.foldlM set start = .ok b) :
        b.toToolchain = start.toToolchain ∧ (start.finder ≠ .ecj → b.jar = start.jar) := by
      clear * - made
      induction settings generalizing start with
      | nil =>
        cases made
        exact ⟨rfl, fun _ => rfl⟩
      | cons setting settings ih =>
        obtain ⟨next, hset, rest⟩ := Except.bind_eq_ok_iff.mp made
        obtain ⟨same, noJar⟩ := set_keeps hset
        obtain ⟨same', noJar'⟩ := ih next rest
        refine ⟨same'.trans same, fun other => (noJar' ?_).trans (noJar other)⟩
        rwa [same]
    exact run _ made

theorem locates_locate (kind : t = .javac ∨ t = .ecj) (made : make t settings = .ok b)
    (s : Session) : b.Locates s (b.locate s) := by
  obtain ⟨same, noJar⟩ := make_keeps made
  rcases kind with rfl | rfl
  · exact locates_javac (by rw [same]; rfl) (noJar nofun)
  · exact locates_ecj (by rw [same]; rfl)

/-! Handles that are handed out. -/

def caller (b : Backend) (encoding : String) (command : List String) : Caller where
  name := b.name
  command := command ++ b.launcherOptions
  format := b.format
  encoding
  successCodes := b.successCodes
  usesArgumentFile := b.usesArgumentFile
  timeout := b.timeout
  messages := b.messages

/-- The compiler that the backend takes from the Java installation cannot be executed. -/
def IsUnchecked (b : Backend) (s : Session) : Prop :=
  b.finder = .javac ∧ b.jar = none ∧ b.executable = none ∧
    ∃ path content, installation? s = some path ∧ s.files.stat path = .ok (.file content false)

theorem exists_cons_of_calls (calls : b.Calls s command) :
    ∃ found rest, command = found :: rest := by
  cases calls <;> exact ⟨_, _, rfl⟩

theorem isFileAt_of_calls {found : String} {rest : List String}
    (calls : b.Calls s (found :: rest)) :
    s.files.IsFileAt found ∧ (s.files.IsProgramAt found ↔ ¬ b.IsUnchecked s) := by
  have checked (there : s.files.IsProgramAt found) (other : ¬ b.IsUnchecked s) :
      s.files.IsFileAt found ∧ (s.files.IsProgramAt found ↔ ¬ b.IsUnchecked s) :=
    ⟨there.isFileAt, iff_of_true there other⟩
  cases calls with
  | jar given looks there =>
    refine checked looks.isProgramAt ?_
    rintro ⟨-, noJar, -⟩
    simp [noJar] at given
  | executable noJar given names =>
    refine checked names.isProgramAt ?_
    rintro ⟨-, -, free, -⟩
    simp [free] at given
  | script kind noJar free names =>
    refine checked names.isProgramAt ?_
    rintro ⟨other, -⟩
    simp [kind] at other
  | installation kind noJar free home there =>
    obtain ⟨content, executable, there⟩ := there
    refine ⟨⟨content, executable, there⟩, ?_⟩
    unfold IsProgramAt IsUnchecked
    cases executable <;> simp [kind, noJar, free, home, there]
  | listed kind noJar free bare looks =>
    refine checked looks.isProgramAt ?_
    rintro ⟨-, -, -, path, content, home, there⟩
    exact bare path home ⟨content, false, there⟩

/-- A new private directory is all that is new. -/
theorem extends_of_open {c : Caller} (opened : Handle.open c s = .ok h s') :
    s.files.Extends s'.files := by
  obtain ⟨workDir, s₁, made, hpure⟩ := bind_eq_ok_iff.mp opened
  obtain ⟨-, rfl⟩ := pure_eq_ok_iff.mp hpure
  obtain ⟨-, files, run, rfl⟩ := makePrivate_eq_ok made
  obtain ⟨place, -, bare, -, rfl⟩ := makeDirectory_eq_ok run
  exact (Extends.refl s.files).put _ bare

/-- What a handle is for: a command that its backend calls, by the path of a file. The file can be
executed exactly if it was asked about that, and a jar that is configured is a file. -/
structure Starts (b : Backend) (s : Session) (h : Handle) (t : FileTree) (found : String)
    (rest : List String) : Prop where
  calls : b.Calls s (found :: rest)
  command : h.command = found :: rest ++ b.launcherOptions
  isFileAt : t.IsFileAt found
  isProgramAt_iff : t.IsProgramAt found ↔ ¬ b.IsUnchecked s
  jar : ∀ jar, b.jar = some jar → rest = ["-jar", jar.text] ∧ t.IsFileAt jar.text

theorem exists_starts_of_open {opened : List String} (calls : b.Calls s opened)
    (run : Handle.open (b.caller encoding opened) s = .ok h s') :
    ∃ found rest, b.Starts s h s'.files found rest := by
  obtain ⟨found, rest, rfl⟩ := exists_cons_of_calls calls
  have keeps := extends_of_open run
  obtain ⟨there, checked⟩ := isFileAt_of_calls calls
  refine ⟨found, rest, calls, ?_, keeps.isFileAt there, ?_, fun jar given => ?_⟩
  · have same := (Handle.isFresh_of_open run).2
    rw [same]
    rfl
  · rw [← checked]
    exact keeps.isProgramAt_iff there
  · obtain ⟨java, words, -, there⟩ := (calls_iff_of_jar given).mp calls
    obtain ⟨-, rfl⟩ := List.cons.inj words
    exact ⟨rfl, keeps.isFileAt there⟩

/-! Handles that are not handed out. -/

def unavailable (b : Backend) (message : String) : Fault where
  kind := .unavailable
  message
  code := some "BACKEND_NOT_FOUND"
  facts := [("backend", .text b.name)]

/-- How a backend fails that calls nothing: with its fault, or with that of the message for it. -/
inductive Lacks (b : Backend) : Failure → Prop
  | told {message : String} (said : b.messages.say .backendNotFound [.text b.name] = .ok message) :
    Lacks b (.fault (b.unavailable message))
  | untold {e : Failure} (unsaid : b.messages.say .backendNotFound [.text b.name] = .error e) :
    Lacks b e

/-- How no handle is handed out: nothing is called, the operating system refuses the question whether
a file is there, or a command is called but there can be no private directory. -/
inductive Fails (b : Backend) (s : Session) : Failure → Prop
  | lacks {e : Failure} (none : ∀ command, ¬ b.Calls s command) (lacks : b.Lacks e) : Fails b s e
  | refused {path : String} {refusal : OsError} (asks : b.Asks s path)
    (refused : s.files.isFile? path = .error refusal) : Fails b s (.refused refusal)
  | unmade {command : List String} {e : Failure} {s' : Session} (calls : b.Calls s command)
    (unmade : makePrivate s!"page_compiler_{b.name}_" s = .error e s') : Fails b s e

/-- What is configured cannot be called: a jar that is no file, or, without a jar, an executable
that names no program. -/
inductive IsUnusable (b : Backend) (s : Session) : Prop
  | jar {jar : PathName} (given : b.jar = some jar) (missing : ¬ s.files.IsFileAt jar.text)
  | executable {text : String} (noJar : b.jar = none) (given : b.executable = some text)
    (missing : ∀ found, ¬ Names s text found)

theorem IsUnusable.not_calls (unusable : b.IsUnusable s) : ¬ b.Calls s command := by
  intro calls
  cases unusable with
  | jar given missing =>
    obtain ⟨-, -, -, there⟩ := (calls_iff_of_jar given).mp calls
    exact missing there
  | executable noJar given missing =>
    obtain ⟨found, -, names⟩ := (calls_iff_of_executable noJar given).mp calls
    exact missing found names

theorem exists_lacks (b : Backend) : ∃ e, b.notFound = .error e ∧ b.Lacks e := by
  cases said : b.messages.say .backendNotFound [.text b.name] with
  | ok message => exact ⟨_, by simp [notFound, said, bind, Except.bind]; rfl, .told said⟩
  | error e => exact ⟨e, by simp [notFound, said, bind, Except.bind], .untold said⟩

/-- With the messages of the bundle the fault is told. -/
theorem Lacks.eq_unavailable (plain : b.messages = {}) (lacks : b.Lacks e) :
    e = .fault (b.unavailable
      s!"No Java compiler was found ({b.name}). Install a JDK or set JAVA_HOME.") := by
  have said := Messages.say_backendNotFound b.name
  rw [← plain] at said
  cases lacks with
  | told told => rw [Except.ok.inj (said.symm.trans told)]
  | untold unsaid => cases said.symm.trans unsaid

/-- What acquiring comes to, by what looking for the compiler comes to. -/
theorem acquire_cases (encoding : String) (located : b.Locates s (b.locate s)) :
    (∃ command, b.Calls s command ∧
        b.acquire encoding s = Handle.open (b.caller encoding command) s) ∨
      (∃ e s', (∀ command, ¬ b.Calls s command) ∧ b.Lacks e ∧
        b.acquire encoding s = .error e s') ∨
      ∃ path refusal, b.Asks s path ∧ s.files.isFile? path = .error refusal ∧
        b.acquire encoding s = .error (.refused refusal) s := by
  have found {command : Option (List String)} (run : b.locate s = .ok command) :
      b.find s = .ok command s := by
    refine bind_eq_ok_iff.mpr ⟨s, s, rfl, ?_⟩
    simp only [run]
    rfl
  generalize run : b.locate s = outcome at located
  cases located with
  | found calls =>
    obtain ⟨name, rest, rfl⟩ := exists_cons_of_calls calls
    refine .inl ⟨_, calls, ?_⟩
    unfold acquire
    rw [bind_of_ok (found run)]
    rfl
  | missing none =>
    obtain ⟨e, failed, lacks⟩ := b.exists_lacks
    obtain ⟨s', thrown⟩ := exists_ofExcept_eq_error failed s
    exact .inr (.inl ⟨e, s', none, lacks, (bind_of_ok (found run)).trans thrown⟩)
  | refused asks refused =>
    refine .inr (.inr ⟨_, _, asks, refused, bind_eq_error_iff.mpr (.inl ?_)⟩)
    refine bind_eq_error_iff.mpr (.inr ⟨s, s, rfl, ?_⟩)
    simp only [run]
    rfl

/-- A compiler of one of the two known kinds that is handed out is a command that its backend calls,
whose first word is the path of a file, one that can be executed unless it comes unchecked from the
Java installation. One that is not handed out is not there, or the question after it is refused, or
it has no private directory; and what is configured but cannot be called is reported, whatever else
there is to call, unless the question after that is refused. -/
theorem starts_or_fails_acquire (kind : t = .javac ∨ t = .ecj) (made : make t settings = .ok b)
    (encoding : String) (s : Session) :
    (∀ h s', b.acquire encoding s = .ok h s' →
      ∃ found rest, b.Starts s h s'.files found rest) ∧
    (∀ e s', b.acquire encoding s = .error e s' → b.Fails s e) ∧
    (b.IsUnusable s → ∃ e s', b.acquire encoding s = .error e s' ∧ (b.Lacks e ∨
      ∃ path refusal, b.Asks s path ∧ s.files.isFile? path = .error refusal ∧
        e = .refused refusal)) ∧
    (b.messages = {} → ∀ e, b.Lacks e → e = .fault (b.unavailable
      s!"No Java compiler was found ({b.name}). Install a JDK or set JAVA_HOME.")) := by
  refine ⟨?_, ?_, ?_, fun plain e => Lacks.eq_unavailable plain⟩ <;>
    rcases acquire_cases encoding (locates_locate kind made s) with
      ⟨command, calls, run⟩ | ⟨e, s₁, none, lacks, run⟩ | ⟨path, refusal, asks, refused, run⟩
  · intro h s' acquired
    exact exists_starts_of_open calls (run.symm.trans acquired)
  · intro h s' acquired
    cases run.symm.trans acquired
  · intro h s' acquired
    cases run.symm.trans acquired
  · intro e s' failed
    rcases bind_eq_error_iff.mp (run.symm.trans failed) with unmade | ⟨_, _, -, opened⟩
    · exact .unmade calls unmade
    · cases opened
  · intro e' s' failed
    cases run.symm.trans failed
    exact .lacks none lacks
  · intro e' s' failed
    cases run.symm.trans failed
    exact .refused asks refused
  · exact fun unusable => absurd calls unusable.not_calls
  · exact fun _ => ⟨e, s₁, run, .inl lacks⟩
  · exact fun _ => ⟨_, s, run, .inr ⟨path, refusal, asks, refused, rfl⟩⟩

/-- A session with a compiler on the search path, and one that cannot be executed in a Java
installation, of which the variables tell or do not. -/
def kitSession (told : List (String × String)) : Session where
  files := {
    entries := [(["tmp"], .directory),
      (["bin"], .directory), (["bin", "javac"], .file [] true),
      (["jdk"], .directory), (["jdk", "bin"], .directory),
      (["jdk", "bin", "javac"], .file [] false)]
    current := [] }
  environment := ("PATH", "bin") :: told

def javacKit : Backend := { Toolchain.javac with }

def ecjKit : Backend := { Toolchain.ecj with jar := some (.ofText "ecj.jar") }

/-- The compiler of the search path is started, but not in the place of a jar that is not there. -/
theorem starts_or_fails_acquire_kit :
    (∃ h s', make .javac [] = .ok javacKit ∧
      javacKit.acquire "UTF-8" (kitSession []) = .ok h s' ∧
      ∃ found rest, javacKit.Starts (kitSession []) h s'.files found rest) ∧
    ∃ s', make .ecj [.jar (some "ecj.jar")] = .ok ecjKit ∧ ecjKit.IsUnusable (kitSession []) ∧
      ecjKit.acquire "UTF-8" (kitSession []) = .error (.fault (ecjKit.unavailable
        "No Java compiler was found (ecj). Install a JDK or set JAVA_HOME.")) s' := by
  constructor
  · have made : make .javac [] = .ok javacKit := rfl
    obtain ⟨starts, -⟩ := starts_or_fails_acquire (.inl rfl) made "UTF-8" (kitSession [])
    have acquired : (javacKit.acquire "UTF-8" (kitSession []) matches .ok ..) = true := by
      decide +kernel
    cases run : javacKit.acquire "UTF-8" (kitSession []) with
    | ok h s' => exact ⟨h, s', made, rfl, starts h s' run⟩
    | error e s' =>
      rw [run] at acquired
      cases acquired
  · have made : make .ecj [.jar (some "ecj.jar")] = .ok ecjKit := rfl
    obtain ⟨-, -, fails, told⟩ := starts_or_fails_acquire (.inr rfl) made "UTF-8" (kitSession [])
    have missing : (kitSession []).files.stat (PathName.ofText "ecj.jar").text =
      .error (.os ⟨.noEntry, "ecj.jar"⟩) := by decide +kernel
    have unusable : ecjKit.IsUnusable (kitSession []) := by
      refine .jar rfl ?_
      rintro ⟨content, executable, there⟩
      cases missing.symm.trans there
    obtain ⟨e, s', run, lacks | ⟨path, refusal, asks, refused, -⟩⟩ := fails unusable
    · rw [told rfl e lacks] at run
      exact ⟨s', made, unusable, run⟩
    · cases asks with
      | jar given =>
        cases given
        have asked : (kitSession []).files.isFile? (PathName.ofText "ecj.jar").text = .ok false := by
          decide +kernel
        cases asked.symm.trans refused
      | executable noJar _ => cases noJar
      | script _ noJar _ => cases noJar
      | installation _ noJar _ _ => cases noJar

/-- A compiler of the Java installation is handed out although it cannot be executed. -/
theorem exists_acquire_unexecutable : ∃ h s' found rest, make .javac [] = .ok javacKit ∧
    javacKit.acquire "UTF-8" (kitSession [("JAVA_HOME", "jdk")]) = .ok h s' ∧
    h.command = found :: rest ∧ ¬ s'.files.IsProgramAt found := by
  have acquired : (match javacKit.acquire "UTF-8" (kitSession [("JAVA_HOME", "jdk")]) with
      | .ok h s' => h.command.head? = some "jdk/bin/javac" && !s'.files.isProgram "jdk/bin/javac"
      | .error .. => false) = true := by decide +kernel
  cases run : javacKit.acquire "UTF-8" (kitSession [("JAVA_HOME", "jdk")]) with
  | ok h s' =>
    rw [run] at acquired
    obtain ⟨head, checked⟩ : h.command.head? = some "jdk/bin/javac" ∧
        s'.files.isProgram "jdk/bin/javac" = false := by simpa using acquired
    obtain ⟨rest, command⟩ := List.head?_eq_some_iff.mp head
    refine ⟨h, s', _, rest, rfl, rfl, command, fun there => ?_⟩
    rw [isProgram_iff.mpr there] at checked
    cases checked
  | error e s' =>
    rw [run] at acquired
    cases acquired

end PageBuild.Backend
