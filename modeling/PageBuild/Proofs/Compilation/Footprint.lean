import PageBuild.Proofs.Compilation.Policy
import PageBuild.Proofs.FileTree.Changes
import PageBuild.Proofs.Handle.Directory

/-! What a compilation leaves behind in the files. While its handle is open, all that is new is
below the private directory or on the way to the scratch directory; closing the handle takes the
first away, and at most the source itself is deleted after that. -/
namespace PageBuild

open Session

namespace FileTree

variable {base files files' : FileTree} {place : Place} {p : PathName}

/-- A tree in which something has a directory of its own: all else that is new are directories on
the way to a path. -/
structure Hosts (base : FileTree) (place : Place) (p : PathName) (files : FileTree) : Prop where
  keeps : base.Extends files
  directory : files.entry? place = some .directory
  made : ∀ other entry, files.entry? other = some entry → base.entry? other = some entry ∨
    place <+: other ∨ entry = .directory ∧ ∃ q : PathName, q.IsAbove p ∧ other = base.placeOf q

namespace Hosts

theorem of_put (bare : base.entry? place = none) (named : place ≠ []) (p : PathName) :
    Hosts base place p (base.put place .directory) := by
  refine ⟨(Extends.refl base).put _ bare, entry?_put_self _ named, fun other entry there => ?_⟩
  by_cases same : other = place
  · exact .inr (.inl (same ▸ List.prefix_rfl))
  · rw [entry?_put_other _ same] at there
    exact .inl there

theorem makes (hosts : Hosts base place p files) (makes : Makes p files files') :
    Hosts base place p files' := by
  refine ⟨hosts.keeps.trans makes.keeps, makes.keeps.kept _ _ hosts.directory,
    fun other entry there => ?_⟩
  rcases makes.made other entry there with old | ⟨directory, q, above, rfl⟩
  · exact hosts.made other entry old
  · exact .inr (.inr ⟨directory, q, above, placeOf_congr hosts.keeps.current q⟩)

/-- Whatever is put into the own directory. -/
theorem put_below (hosts : Hosts base place p files) (grounded : base.IsGrounded)
    (bare : base.entry? place = none) (name : String) (entry : Entry) :
    Hosts base place p (files.put (place ++ [name]) entry) := by
  have apart : place ≠ place ++ [name] := by simp
  refine ⟨hosts.keeps.put _ (grounded.entry?_append bare _), ?_, fun other found there => ?_⟩
  · rw [entry?_put_other _ apart]
    exact hosts.directory
  · by_cases same : other = place ++ [name]
    · exact .inr (.inl (same ▸ List.prefix_append place [name]))
    · rw [entry?_put_other _ same] at there
      exact hosts.made other found there

/-- Without the own directory there is nothing new but directories on the way to the path. -/
theorem clear (hosts : Hosts base place p files) (grounded : base.IsGrounded)
    (bare : base.entry? place = none) (named : place ≠ []) :
    Makes p base (files.clear place) := by
  refine ⟨hosts.keeps.clear grounded bare, fun other entry there => ?_⟩
  by_cases below : place <+: other
  · rw [entry?_clear_below below named] at there
    cases there
  · rw [entry?_clear_apart below] at there
    exact (hosts.made other entry there).imp_right (Or.resolve_left · below)

end Hosts

end FileTree

namespace Session

theorem files_attempt (c : FileTree.Change Unit) (s : Session) :
    (after (attempt c) s).files = FileTree.changed c s.files := by
  unfold after attempt FileTree.changed
  rcases c s.files with ⟨a, files⟩ | ⟨e, files⟩
  · rfl
  · cases e <;> rfl

theorem keeps_files_log (level : Level) (text : String) : Keeps Session.files (log level text) :=
  fun _ => rfl

end Session

namespace Handle

variable {h : Handle} {base : FileTree} {place : Place} {p : PathName} {s s₁ : Session}
  {arguments : List String}

theorem hosts_prepare (home : IsHome base h.workDir place)
    (hosts : FileTree.Hosts base place p s.files) :
    FileTree.Hosts base place p (after (h.prepare arguments) s).files := by
  rcases files_prepare home hosts.keeps.current arguments with kept | ⟨-, _, _, put⟩
  · rwa [kept]
  · rw [put]
    exact hosts.put_below home.grounded home.bare _ _

theorem isDirectory?_prepare (home : IsHome base h.workDir place)
    (same : s.files.current = base.current) {path : String}
    (there : s.files.isDirectory? path = .ok true) :
    (after (h.prepare arguments) s).files.isDirectory? path = .ok true := by
  rcases files_prepare home same arguments with kept | ⟨bare, _, _, put⟩
  · rwa [kept]
  · rw [put]
    exact FileTree.isDirectory?_put bare there

end Handle

namespace Compilation

variable {t : Compilation} {c : Context} {h : Handle} {base files : FileTree} {place : Place}
  {s s₁ : Session}

theorem enter_eq (stage : Stage) (s : Session) : enter stage s = .ok () (s.entered stage) := rfl

theorem keeps_files_enter (stage : Stage) : Keeps Session.files (enter stage) := fun _ => rfl

theorem diagnoseWith_of_error {e : PathFault}
    (refused : FileTree.ensureDirectory c.scratchDir s.files = .error e files) :
    t.diagnoseWith c h s = .error (.ofPath e) { s.entered .options with files } :=
  (bind_of_ok rfl).trans (bind_of_error (change_of_error (s := s.entered .options) refused))

def readied (s : Session) (files : FileTree) : Session :=
  (({ s.entered .options with files }.entered .classOutput).entered .classPath).entered .compile

theorem diagnoseWith_of_ok (isOpen : h.isClosed = false)
    (made : FileTree.ensureDirectory c.scratchDir s.files = .ok () files) :
    t.diagnoseWith c h s =
      ((h.located c).compile (t.backend.dialect.options c) [c.sourceFile.text] >>= fun found =>
        pure (t.backend.dialect.options c, found)) (readied s files) := by
  have stillOpen : (h.withLocation [c.scratchDir] .classOutput).isClosed = false := isOpen
  unfold diagnoseWith
  rw [bind_of_ok (enter_eq _ s), bind_of_ok (change_of_ok (s := s.entered .options) made),
    bind_of_ok (enter_eq _ _), bind_of_ok (Handle.setLocation_of_open isOpen _ _ _),
    bind_of_ok (enter_eq _ _), bind_of_ok (Handle.setLocation_of_open stillOpen _ _ _),
    bind_of_ok (enter_eq _ _)]
  rfl

/-- All that is seen after a diagnosis was seen when its compiler had ended. -/
theorem after_diagnoseWith_of_ok {β : Type} (view : Session → β) (isOpen : h.isClosed = false)
    (made : FileTree.ensureDirectory c.scratchDir s.files = .ok () files) :
    view (after (t.diagnoseWith c h) s) = view (after ((h.located c).compile
      (t.backend.dialect.options c) [c.sourceFile.text]) (readied s files)) := by
  rw [after_congr_at (diagnoseWith_of_ok isOpen made)]
  exact Keeps.after_bind (fun _ => keeps_pure _) _

theorem hosts_diagnoseWith (home : Handle.IsHome base h.workDir place) (isOpen : h.isClosed = false)
    (hosts : FileTree.Hosts base place c.scratchDir s.files) :
    FileTree.Hosts base place c.scratchDir (after (t.diagnoseWith c h) s).files := by
  have makes := FileTree.onlyMakes_ensureDirectory c.scratchDir s.files
  cases made : FileTree.ensureDirectory c.scratchDir s.files with
  | error e files =>
    rw [FileTree.changed_of_error made] at makes
    rw [after_of_error (diagnoseWith_of_error made)]
    exact hosts.makes makes
  | ok _ files =>
    rw [FileTree.changed_of_ok made] at makes
    rw [after_diagnoseWith_of_ok Session.files isOpen made,
      Handle.files_compile (h := h.located c) isOpen]
    exact Handle.hosts_prepare home (hosts.makes makes)

/-- The compiler is run only if the scratch directory is there. -/
theorem launches_diagnoseWith (home : Handle.IsHome base h.workDir place)
    (isOpen : h.isClosed = false) (hosts : FileTree.Hosts base place c.scratchDir s.files) :
    (after (t.diagnoseWith c h) s).launches = s.launches ∨
      ∃ launch : Launch, launch.files.isDirectory? c.scratchDir.text = .ok true ∧
        (after (t.diagnoseWith c h) s).launches = s.launches ++ [launch] := by
  cases made : FileTree.ensureDirectory c.scratchDir s.files with
  | error e files =>
    rw [after_of_error (diagnoseWith_of_error made)]
    exact .inl (launches_entered s .options)
  | ok _ files =>
    have makes := FileTree.onlyMakes_ensureDirectory c.scratchDir s.files
    rw [FileTree.changed_of_ok made] at makes
    have same := makes.keeps.current.trans hosts.keeps.current
    have there := FileTree.isDirectory?_of_ensureDirectory made
    have one : StartsOne (fun launch => launch.files.isDirectory? c.scratchDir.text = .ok true)
        ((h.located c).compile (t.backend.dialect.options c) [c.sourceFile.text])
        (readied s files) := by
      refine Handle.startsOne_compile_of fun command s₁ prepared => ?_
      rw [← after_of_ok prepared]
      exact Handle.isDirectory?_prepare home same there
    have before : (readied s files).launches = s.launches := by
      simp only [readied, launches_entered]
      exact (steady_launches.files _ _).trans (launches_entered s .options)
    rw [after_diagnoseWith_of_ok launches isOpen made, ← before]
    exact one.after.imp_left And.left

/-- A handle that was acquired has a directory of its own where nothing was. -/
theorem exists_home_of_acquire (grounded : s.files.IsGrounded)
    (hacquire : t.backend.acquire c.encoding (s.entered .acquire) = .ok h s₁) :
    ∃ place, Handle.IsHome s.files h.workDir place ∧
      FileTree.Hosts s.files place c.scratchDir s₁.files := by
  obtain ⟨command, opened⟩ := Backend.open_of_acquire hacquire
  have same : (s.entered .acquire).files = s.files := rfl
  obtain ⟨place, home, -, made⟩ :=
    Handle.exists_home_of_open (s := s.entered .acquire) grounded opened
  rw [same] at home made
  refine ⟨place, home, ?_⟩
  rw [made]
  exact .of_put home.bare home.place_ne_nil _

theorem files_diagnose (home : Handle.IsHome s.files h.workDir place)
    (hosts : FileTree.Hosts s.files place c.scratchDir s₁.files)
    (hacquire : t.backend.acquire c.encoding (s.entered .acquire) = .ok h s₁) :
    (after (t.diagnose c) s).files = (after (t.diagnoseWith c h) s₁).files.clear place := by
  have isOpen := (Backend.isFresh_of_acquire hacquire).isOpen
  have inside := hosts_diagnoseWith (t := t) home isOpen hosts
  have closes := Handle.close_of_directory (s := (after (t.diagnoseWith c h) s₁).entered .close)
    home inside.keeps inside.directory isOpen
  rw [(diagnose_of_acquire hacquire).1] at closes
  exact congrArg Session.files (EStateM.Result.ok.inj closes).2

/-- All that a diagnosis leaves in the files are directories on the way to the scratch directory. -/
theorem makes_diagnose (grounded : s.files.IsGrounded) :
    FileTree.Makes c.scratchDir s.files (after (t.diagnose c) s).files := by
  cases hacquire : t.backend.acquire c.encoding (s.entered .acquire) with
  | error e s₁ =>
    rw [after_of_error (diagnose_of_acquire_error hacquire),
      Backend.files_of_acquire_error hacquire]
    exact .refl _ _
  | ok h s₁ =>
    obtain ⟨place, home, hosts⟩ := exists_home_of_acquire grounded hacquire
    have isOpen := (Backend.isFresh_of_acquire hacquire).isOpen
    rw [files_diagnose home hosts hacquire]
    exact (hosts_diagnoseWith home isOpen hosts).clear grounded home.bare home.place_ne_nil

/-- What follows a diagnosis may delete the source, and no other file. -/
theorem files_cleanup (t : Compilation) (c : Context) (s : Session) :
    (after (t.cleanup c) s).files = s.files ∨ c.keepGenerated = false ∧
      ∃ content executable, s.files.entry? (s.files.placeOf c.sourceFile) =
        some (.file content executable) ∧
        (after (t.cleanup c) s).files = s.files.erase (s.files.placeOf c.sourceFile) := by
  unfold cleanup
  cases kept : c.keepGenerated with
  | true => exact .inl rfl
  | false =>
    have deleted : (after (t.deleteSource c.sourceFile) s).files =
        FileTree.changed (FileTree.unlink c.sourceFile.text) s.files := by
      have start : t.deleteSource c.sourceFile s =
          (attempt (FileTree.unlink c.sourceFile.text) >>= _) (s.entered .delete) := bind_of_ok rfl
      rw [after_congr_at start]
      refine (Keeps.after_bind (fun answer => ?_) _).trans (files_attempt _ _)
      cases answer with
      | ok _ => exact keeps_pure _
      | error e =>
        refine (keeps_files_ofExcept _).bind fun f => ?_
        exact (keeps_files_log _ _).bind fun _ => keeps_pure _
    rw [if_neg Bool.false_ne_true, deleted]
    refine (FileTree.changed_unlink c.sourceFile.text s.files).imp_right ?_
    rintro ⟨place, content, executable, led, there, erased⟩
    obtain rfl := FileTree.eq_placeOf_of_resolve led
    exact ⟨rfl, content, executable, there, erased⟩

theorem files_conclude (data : Metadata) (suppressed : (c.prototype || c.smapSuppressed) = true)
    (dispatcher : ∀ errors, Keeps Session.files (t.dispatcher errors))
    (found : List String × List Diagnostic) (s : Session) :
    (after (t.conclude c data found) s).files = (after (t.cleanup c) s).files := by
  refine Keeps.after_bind (fun refused => ?_) s
  refine (keeps_resolve_of_logged (fun _ _ _ => rfl) _ _ _).bind fun errors => Keeps.bind ?_ ?_
  · unfold report
    split
    · exact (keeps_files_enter _).bind fun _ => dispatcher _
    · exact keeps_pure _
  · intro _
    refine (keeps_files_log _ _).bind fun _ => Keeps.bind ?_ fun _ => keeps_pure _
    unfold install
    rw [if_pos suppressed]
    exact keeps_pure _

/-- What a compilation without installation leaves behind, however it ends. -/
structure Contained (t : Compilation) (c : Context) (s s' : Session) : Prop where
  /-- All that was there is as it was, except for the source. -/
  kept : ∀ place entry, place ≠ s.files.placeOf c.sourceFile →
    s.files.entry? place = some entry → s'.files.entry? place = some entry
  /-- The source is gone only if it is not to be kept and the compiler has returned. -/
  source : ∀ entry, s.files.entry? (s.files.placeOf c.sourceFile) = some entry →
    s'.files.entry? (s.files.placeOf c.sourceFile) = some entry ∨
      s'.files.entry? (s.files.placeOf c.sourceFile) = none ∧ entry.isFile = true ∧
        c.keepGenerated = false ∧ ∃ found s₁, t.diagnose c s = .ok found s₁
  /-- All that is new are the scratch directory and directories above it. -/
  made : ∀ place entry, s.files.entry? place = none → s'.files.entry? place = some entry →
    entry = .directory ∧ ∃ q : PathName, q.IsAbove c.scratchDir ∧ place = s.files.placeOf q
  /-- The private directory is gone. -/
  gone : ∀ h s₁, t.backend.acquire c.encoding (s.entered .acquire) = .ok h s₁ →
    s'.files.exists? h.workDir.text = .ok false
  /-- The compiler was run only where there was a scratch directory. -/
  started : ∀ launch ∈ (after (t.diagnose c) s).launches, launch ∈ s.launches ∨
    launch.files.isDirectory? c.scratchDir.text = .ok true
  /-- Without a scratch directory no process is started. -/
  blocked : ∀ h s₁ e files, t.backend.acquire c.encoding (s.entered .acquire) = .ok h s₁ →
    FileTree.ensureDirectory c.scratchDir s₁.files = .error e files → s'.launches = s.launches

theorem run_of_diagnose_error {data : Metadata} {e : Failure}
    (failed : t.diagnose c s = .error e s₁) : t.run c data s = .error e s₁ := by
  rw [run_eq_conclude]
  exact bind_of_error failed

/-- A compilation leaves the files of its diagnosis, perhaps without the source. -/
theorem files_run (data : Metadata) (grounded : s.files.IsGrounded)
    (suppressed : (c.prototype || c.smapSuppressed) = true)
    (dispatcher : ∀ errors, Keeps Session.files (t.dispatcher errors)) :
    (after (t.run c data) s).files = (after (t.diagnose c) s).files ∨
      (c.keepGenerated = false ∧ ∃ found s₁, t.diagnose c s = .ok found s₁) ∧
      ∃ content executable,
        (after (t.diagnose c) s).files.entry? (s.files.placeOf c.sourceFile) =
          some (.file content executable) ∧
        (after (t.run c data) s).files =
          (after (t.diagnose c) s).files.erase (s.files.placeOf c.sourceFile) := by
  have same := (makes_diagnose (t := t) (c := c) grounded).keeps.current
  cases run : t.diagnose c s with
  | error e s₁ =>
    rw [after_of_error (run_of_diagnose_error run), after_of_error run]
    exact .inl rfl
  | ok found s₁ =>
    rw [after_of_ok run] at same ⊢
    rw [run_eq_conclude, after_congr_at (bind_of_ok run),
      files_conclude data suppressed dispatcher]
    refine (files_cleanup t c s₁).imp_right ?_
    rintro ⟨deletes, content, executable, there, erased⟩
    rw [FileTree.placeOf_congr same] at there erased
    exact ⟨⟨deletes, found, s₁, rfl⟩, content, executable, there, erased⟩

/-- The process of a diagnosis is the one that its compiler ran as. -/
theorem launches_diagnose
    (hacquire : t.backend.acquire c.encoding (s.entered .acquire) = .ok h s₁) :
    (after (t.diagnose c) s).launches = (after (t.diagnoseWith c h) s₁).launches := by
  rw [(steady_launches.keeps_close h).of_ok (diagnose_of_acquire hacquire).1, launches_entered]

theorem launches_of_acquire
    (hacquire : t.backend.acquire c.encoding (s.entered .acquire) = .ok h s₁) :
    s₁.launches = s.launches :=
  ((steady_launches.keeps_acquire _ _).of_ok hacquire).trans (launches_entered s .acquire)

theorem started_of_mem_launches (grounded : s.files.IsGrounded) {launch : Launch}
    (member : launch ∈ (after (t.diagnose c) s).launches) :
    launch ∈ s.launches ∨ launch.files.isDirectory? c.scratchDir.text = .ok true := by
  cases hacquire : t.backend.acquire c.encoding (s.entered .acquire) with
  | error e s₁ =>
    rw [after_of_error (diagnose_of_acquire_error hacquire),
      (steady_launches.keeps_acquire _ _).of_error hacquire, launches_entered] at member
    exact .inl member
  | ok h s₁ =>
    obtain ⟨place, home, hosts⟩ := exists_home_of_acquire grounded hacquire
    have isOpen := (Backend.isFresh_of_acquire hacquire).isOpen
    rw [launches_diagnose hacquire] at member
    rcases launches_diagnoseWith (t := t) home isOpen hosts with none | ⟨one, there, added⟩
    · rw [none, launches_of_acquire hacquire] at member
      exact .inl member
    · rw [added, launches_of_acquire hacquire, List.mem_append, List.mem_singleton] at member
      rcases member with old | rfl
      · exact .inl old
      · exact .inr there

/-- If the scratch directory is refused, no process is started. -/
theorem launches_run_of_refused (data : Metadata) {e : PathFault}
    (hacquire : t.backend.acquire c.encoding (s.entered .acquire) = .ok h s₁)
    (refused : FileTree.ensureDirectory c.scratchDir s₁.files = .error e files) :
    (after (t.run c data) s).launches = s.launches := by
  have failed := diagnoseWith_of_error (t := t) (h := h) refused
  cases run : t.diagnose c s with
  | ok found s₂ =>
    obtain ⟨s₃, returned⟩ := (diagnose_of_acquire hacquire).2 found s₂ run
    rw [failed] at returned
    cases returned
  | error e' s₂ =>
    have launched := launches_diagnose hacquire
    rw [after_of_error run, after_of_error failed] at launched
    rw [after_of_error (run_of_diagnose_error run), launched, ← launches_of_acquire hacquire]
    exact (steady_launches.files _ _).trans (launches_entered s₁ .options)

/-- Nothing new comes after a diagnosis. -/
theorem entry?_of_run {data : Metadata} (grounded : s.files.IsGrounded)
    (suppressed : (c.prototype || c.smapSuppressed) = true)
    (dispatcher : ∀ errors, Keeps Session.files (t.dispatcher errors)) {entry : Entry}
    (there : (after (t.run c data) s).files.entry? place = some entry) :
    (after (t.diagnose c) s).files.entry? place = some entry := by
  rcases files_run data grounded suppressed dispatcher with
    same | ⟨-, content, executable, file, erased⟩
  · rwa [← same]
  · by_cases source : place = s.files.placeOf c.sourceFile
    · have named : s.files.placeOf c.sourceFile ≠ [] := by
        intro root
        rw [root] at file
        cases file
      rw [erased, source, FileTree.entry?_erase_self _ named] at there
      cases there
    · rwa [erased, FileTree.entry?_erase_other _ source] at there

/-- The private directory is gone after the run. -/
theorem exists?_workDir_of_run {data : Metadata} (grounded : s.files.IsGrounded)
    (suppressed : (c.prototype || c.smapSuppressed) = true)
    (dispatcher : ∀ errors, Keeps Session.files (t.dispatcher errors))
    (hacquire : t.backend.acquire c.encoding (s.entered .acquire) = .ok h s₁) :
    (after (t.run c data) s).files.exists? h.workDir.text = .ok false := by
  have makes := makes_diagnose (t := t) (c := c) grounded
  obtain ⟨place, home, hosts⟩ := exists_home_of_acquire grounded hacquire
  have current : (after (t.run c data) s).files.current = s.files.current := by
    rcases files_run data grounded suppressed dispatcher with
      same | ⟨-, content, executable, -, erased⟩
    · rw [same, makes.keeps.current]
    · rw [erased]
      exact makes.keeps.current
  refine FileTree.exists?_eq_false home.led current (Option.eq_none_iff_forall_ne_some.mpr ?_)
  intro entry there
  have left := entry?_of_run grounded suppressed dispatcher there
  rw [files_diagnose home hosts hacquire,
    FileTree.entry?_clear_below List.prefix_rfl home.place_ne_nil] at left
  cases left

/-- Without installation a compilation touches no files but its source and its scratch directory,
and it starts no process without the latter, however it ends. -/
theorem contained_run (grounded : s.files.IsGrounded)
    (suppressed : (c.prototype || c.smapSuppressed) = true)
    (dispatcher : ∀ errors, Keeps Session.files (t.dispatcher errors)) (data : Metadata) :
    Contained t c s (after (t.run c data) s) := by
  have makes := makes_diagnose (t := t) (c := c) grounded
  have files := files_run data grounded suppressed dispatcher
  constructor
  case kept =>
    intro place entry apart there
    have kept := makes.keeps.kept place entry there
    rcases files with same | ⟨-, content, executable, -, erased⟩
    · rwa [same]
    · rwa [erased, FileTree.entry?_erase_other _ apart]
  case source =>
    intro entry there
    have kept := makes.keeps.kept _ entry there
    rcases files with same | ⟨⟨deletes, returned⟩, content, executable, file, erased⟩
    · rw [same]
      exact .inl kept
    · obtain rfl := Option.some.inj (kept.symm.trans file)
      have named : s.files.placeOf c.sourceFile ≠ [] := by
        intro root
        rw [root] at there
        cases there
      rw [erased, FileTree.entry?_erase_self _ named]
      exact .inr ⟨rfl, rfl, deletes, returned⟩
  case made =>
    intro place entry bare there
    have diagnosed := entry?_of_run grounded suppressed dispatcher there
    refine (makes.made place entry diagnosed).resolve_left ?_
    rw [bare]
    nofun
  case gone => exact fun _ _ => exists?_workDir_of_run grounded suppressed dispatcher
  case started => exact fun _ => started_of_mem_launches grounded
  case blocked => exact fun _ _ _ _ => launches_run_of_refused data

def prototypeContext : Context where
  scratchDir := .ofText "out/classes"
  sourceFile := .ofText "A.java"
  keepGenerated := false
  prototype := true

def prototypeSession : Session :=
  { rootedSession with
    files := ⟨[(["j"], .file [] true), (["tmp"], .directory), (["A.java"], .file [] false)], []⟩ }

theorem contained_run_prototype :
    prototypeSession.files.IsGrounded ∧
    (prototypeContext.prototype || prototypeContext.smapSuppressed) = true ∧
    (∀ errors, Keeps Session.files (sweeping.dispatcher errors)) ∧
    (after (sweeping.run prototypeContext {}) prototypeSession).files.entries =
      [(["j"], .file [] true), (["tmp"], .directory), (["out"], .directory),
        (["out", "classes"], .directory)] ∧
    Contained sweeping prototypeContext prototypeSession
      (after (sweeping.run prototypeContext {}) prototypeSession) := by
  have grounded : prototypeSession.files.IsGrounded := by decide
  have dispatcher : ∀ errors, Keeps Session.files (sweeping.dispatcher errors) := by
    intro errors
    refine Keeps.bind (fun _ => rfl) fun _ => keeps_forM (fun d => ?_) errors
    exact (keeps_files_ofExcept _).bind fun _ => keeps_files_log _ _
  have entries : (after (sweeping.run prototypeContext {}) prototypeSession).files.entries =
      [(["j"], .file [] true), (["tmp"], .directory), (["out"], .directory),
        (["out", "classes"], .directory)] := by
    decide +kernel
  exact ⟨grounded, rfl, dispatcher, entries, contained_run grounded rfl dispatcher {}⟩

end Compilation
end PageBuild
