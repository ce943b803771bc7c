import PageBuild.Proofs.SymbolFiles.Steps

/-! What an installation leaves behind. Every class has a file of its own, which holds the last of
its maps, and no other file is touched. An installation that stops has installed the maps before the
one it stops at; if the text of that one has no encoding, its file is left empty. -/
namespace PageBuild.SymbolFiles

open Session

variable {directory file : PathName} {messages : Messages} {m m' : LineMap} {maps : LineMaps}
  {s s' : Session} {t t' : FileTree} {e : Failure}

/-- The file is below the directory, where the names of the class lead. -/
structure IsFileOf (directory : PathName) (m : LineMap) (file : PathName) : Prop where
  anchor : file.anchor = directory.anchor
  parts : file.parts = directory.parts ++ m.symbolNames

def placeIn (t : FileTree) (directory : PathName) (m : LineMap) : Place :=
  t.placeOf directory ++ m.symbolNames

theorem placeIn_congr (same : t'.current = t.current) (directory : PathName) (m : LineMap) :
    placeIn t' directory m = placeIn t directory m := by
  rw [placeIn, placeIn, FileTree.placeOf_congr same]

/-- No file of a class is below that of another class. -/
theorem className_eq_of_placeIn_above
    (h : placeIn t directory m <+: placeIn t directory m') : m.className = m'.className :=
  LineMap.className_eq_of_above ((List.prefix_append_right_inj _).mp h)

/-- Maps of other classes go elsewhere. -/
theorem placeIn_notMem_of_other (t : FileTree) (directory : PathName)
    (other : ∀ member ∈ maps, member.2.className ≠ m.className) :
    placeIn t directory m ∉ maps.map fun member => placeIn t directory member.2 := by
  rw [List.mem_map]
  rintro ⟨member, found, same⟩
  have below : placeIn t directory member.2 <+: placeIn t directory m := same ▸ List.prefix_rfl
  exact other member found (className_eq_of_placeIn_above below)

theorem exists_target_of_isWellNamed (h : m.IsWellNamed) (directory : PathName) :
    ∃ file, target directory m = .ok file ∧ IsFileOf directory m file ∧
      ∀ t : FileTree, t.placeOf file = placeIn t directory m := by
  obtain ⟨q, found, relative, parts⟩ := h.smapFile_eq
  refine ⟨directory.join q, ?_, ?_, fun t => ?_⟩
  · rw [target, found]
  · unfold PathName.join
    rw [if_pos relative]
    exact ⟨rfl, congrArg (directory.parts ++ ·) parts⟩
  · rw [FileTree.placeOf_join_of_plain _ _ (LineMap.plain_of_smapFile found), if_pos relative,
      parts, placeIn]

/-- The files of line maps are there, and nothing else is new but directories. -/
structure Installed (directory : PathName) (maps : LineMaps) (t t' : FileTree) : Prop where
  /-- The file of a class holds the last map of the class. -/
  holds : ∀ before member later, maps = before ++ member :: later →
    (∀ other ∈ later, other.2.className ≠ member.2.className) →
    ∃ file text, IsFileOf directory member.2 file ∧
      t'.resolve file.text = .ok (placeIn t directory member.2) ∧
      member.2.smap = .ok text ∧ Text.IsEncodable text ∧
      t'.contentOf file.text = .ok (Utf8.encode text)
  /-- Files of different classes are neither the same nor one below the other. -/
  apart : ∀ one ∈ maps, ∀ other ∈ maps, one.2.className ≠ other.2.className →
    ¬ placeIn t directory one.2 <+: placeIn t directory other.2
  /-- All other files are as they were, and there are no more of them. -/
  others : ∀ place, (∀ member ∈ maps, place ≠ placeIn t directory member.2) →
    ∀ content executable, t'.entry? place = some (.file content executable) ↔
      t.entry? place = some (.file content executable)
  directories : ∀ place, t.entry? place = some .directory → t'.entry? place = some .directory

/-- A map of a well named class that is installed is in the file of the class. -/
theorem stored_of_isWellNamed (h : m.IsWellNamed)
    (done : installOne directory messages m s = .ok () s') :
    ∃ file text, IsFileOf directory m file ∧
      s'.files.resolve file.text = .ok (placeIn s.files directory m) ∧
      (m.smap = .ok text ∧ Text.IsEncodable text ∧
        s'.files.contentOf file.text = .ok (Utf8.encode text)) ∧
      FileTree.Writes [placeIn s.files directory m] s.files s'.files := by
  obtain ⟨file, named, isFile, placed⟩ := exists_target_of_isWellNamed h directory
  obtain ⟨file', named', stored⟩ := stored_of_installOne done
  obtain rfl : file' = file := Except.ok.inj (named'.symm.trans named)
  obtain ⟨text, holds⟩ := stored.holds
  rw [← placed]
  exact ⟨file', text, isFile, stored.leads, holds, stored.writes⟩

theorem writes_of_installEach (wellNamed : ∀ member ∈ maps, member.2.IsWellNamed)
    (done : installEach directory messages maps s = .ok () s') :
    FileTree.Writes (maps.map fun member => placeIn s.files directory member.2) s.files
      s'.files := by
  have writes := writes_installEach directory messages maps s
  rw [after_of_ok done] at writes
  refine writes.mono fun place found => ?_
  obtain ⟨member, there, found⟩ := List.mem_flatMap.mp found
  obtain ⟨file, named, -, placed⟩ := exists_target_of_isWellNamed (wellNamed member there) directory
  rw [placesOf_of_target named, List.mem_singleton, placed] at found
  exact found ▸ List.mem_map_of_mem there

theorem installed_of_installEach (wellNamed : ∀ member ∈ maps, member.2.IsWellNamed)
    (done : installEach directory messages maps s = .ok () s') :
    Installed directory maps s.files s'.files := by
  have writes := writes_of_installEach wellNamed done
  constructor
  case holds =>
    rintro before member later rfl last
    obtain ⟨named, here, after⟩ := List.forall_mem_append.mp wellNamed |>.imp_right
      List.forall_mem_cons.mp
    -- The run is cut at the map: `s₁` comes before it and `s₂` after it, and from then on the maps
    -- are of other classes.
    obtain ⟨s₁, first, rest⟩ := forM_append_eq_ok_iff.mp done
    obtain ⟨⟨⟩, s₂, own, rest⟩ := bind_eq_ok_iff.mp rest
    obtain ⟨file, text, isFile, led, ⟨written, encodable, stored⟩, writes₂⟩ :=
      stored_of_isWellNamed here own
    have writes₁ := writes_of_installEach named first
    have writes₃ := writes_of_installEach after rest
    have untouched := placeIn_notMem_of_other s₂.files directory last
    rw [placeIn_congr writes₂.current directory member.2] at untouched
    refine ⟨file, text, isFile, ?_, written, encodable, writes₃.contentOf led untouched stored⟩
    rw [← placeIn_congr writes₁.current]
    exact writes₃.leads _ _ led
  case apart => exact fun one _ other _ ne below => ne (className_eq_of_placeIn_above below)
  case others =>
    intro place other content executable
    refine writes.file_iff ?_
    simp only [List.mem_map, not_exists, not_and]
    exact fun member found same => other member found same.symm
  case directories => exact writes.directories

/-- Nothing but directories comes after maps that are installed. -/
theorem Installed.of_writes {t'' : FileTree} (h : Installed directory maps t t')
    (rest : FileTree.Writes [] t' t'') : Installed directory maps t t'' := by
  refine ⟨fun before member later split last => ?_, h.apart,
    fun place other content executable => ?_,
    fun place there => rest.directories place (h.directories place there)⟩
  · obtain ⟨file, text, isFile, led, written, encodable, stored⟩ :=
      h.holds before member later split last
    exact ⟨file, text, isFile, rest.leads _ _ led, written, encodable,
      rest.contentOf led List.not_mem_nil stored⟩
  · exact (rest.file_iff List.not_mem_nil).trans (h.others place other content executable)

/-- The maps before one that fails are installed. If the text of the failing one has no encoding, its
file has been emptied after that. -/
inductive Stopped (directory : PathName) (before : LineMaps) (m : LineMap) (t : FileTree) :
    Failure → FileTree → Prop
  | unwritten {e : Failure} {t' : FileTree} (installed : Installed directory before t t') :
    Stopped directory before m t e t'
  | emptied {e : Utf8.Unencodable} {t' : FileTree} {executable : Bool}
    (installed : Installed directory before t t') :
    Stopped directory before m t (.value (.text (.unencodable e)))
      (t'.put (placeIn t directory m) (.file [] executable))

theorem Installed.stopped {t'' : FileTree} (h : Installed directory maps t t')
    (same : t'.current = t.current) (wellNamed : m.IsWellNamed)
    (leaves : Leaves directory m t' e t'') : Stopped directory maps m t e t'' := by
  cases leaves with
  | unwritten writes => exact .unwritten (h.of_writes writes)
  | emptied named writes bare =>
    obtain ⟨file, named', -, placed⟩ := exists_target_of_isWellNamed wellNamed directory
    obtain rfl := Except.ok.inj (named'.symm.trans named)
    rw [placed, placeIn_congr same]
    exact .emptied (h.of_writes writes)

/-- An installation of well named classes writes their files and no others; a fault is that of the
first map that is not installed. -/
theorem installed_install (wellNamed : ∀ member ∈ maps, member.2.IsWellNamed)
    (directory : PathName) (messages : Messages) (s : Session) :
    (∀ s', install directory messages (some maps) s = .ok () s' →
      Installed directory maps s.files s'.files) ∧
    ∀ e s', install directory messages (some maps) s = .error e s' →
      ∃ before member later, maps = before ++ member :: later ∧
        Stopped directory before member.2 s.files e s'.files ∧
        ∀ f, e = .fault f → Installed directory before s.files s'.files ∧
          ∃ file refusal message, IsFileOf directory member.2 file ∧
            messages.say .smapInstallFailed [.text member.2.className, .refusal refusal] =
              .ok message ∧
            f = {
              kind := .symbols, message, code := some "SMAP_WRITE_ERROR"
              facts := [("target", .text file.text)] } := by
  constructor
  · intro s' done
    obtain ⟨s₁, each, same⟩ := installEach_of_install_ok done
    rw [← same]
    exact installed_of_installEach wellNamed each
  · intro e s' failed
    obtain ⟨before, member, later, s₁, split, done, stopped⟩ :=
      exists_of_forM_eq_error (installEach_of_install_error failed)
    rw [split, List.forall_mem_append, List.forall_mem_cons] at wellNamed
    obtain ⟨named, here, -⟩ := wellNamed
    obtain ⟨leaves, fails⟩ := fails_of_installOne stopped
    have current := (writes_of_installEach named done).current
    have upTo := (installed_of_installEach named done).stopped current here leaves
    refine ⟨before, member, later, split, upTo, ?_⟩
    rintro f rfl
    obtain ⟨installed⟩ := upTo
    refine ⟨installed, ?_⟩
    cases fails with
    | unsaid _ _ unsaid => exact absurd unsaid (Messages.say_ne_fault f)
    | refused found _ said =>
      obtain ⟨file, found', isFile, -⟩ := exists_target_of_isWellNamed here directory
      obtain rfl := Except.ok.inj (found'.symm.trans found)
      exact ⟨_, _, _, isFile, said, rfl⟩

/-- Two classes, one of them with two maps. -/
def packages : LineMaps := [
  ("a", { generatedFile := "A.java", className := "p.A" }),
  ("b", { generatedFile := "B.java", className := "B" }),
  ("c", { generatedFile := "C.java", className := "p.A" })]

theorem installed_install_packages :
    (∀ member ∈ packages, member.2.IsWellNamed) ∧
      ∃ s', install (.ofText "out") {} (some packages) { files := ⟨[], []⟩ } = .ok () s' ∧
        s'.files.entries.map (·.1) =
          [["out"], ["out", "p"], ["out", "B.class.smap"], ["out", "p", "A.class.smap"]] ∧
        Installed (.ofText "out") packages ⟨[], []⟩ s'.files := by
  have wellNamed : ∀ member ∈ packages, member.2.IsWellNamed := by decide
  have done : (install (.ofText "out") {} (some packages) { files := ⟨[], []⟩ } matches .ok ..) =
      true := by
    decide +kernel
  have places : (after (install (.ofText "out") {} (some packages))
      { files := ⟨[], []⟩ }).files.entries.map (·.1) =
        [["out"], ["out", "p"], ["out", "B.class.smap"], ["out", "p", "A.class.smap"]] := by
    decide +kernel
  cases run : install (.ofText "out") {} (some packages) { files := ⟨[], []⟩ } with
  | ok _ s' =>
    rw [after_of_ok run] at places
    exact ⟨wellNamed, s', rfl, places,
      (installed_install wellNamed (.ofText "out") {} { files := ⟨[], []⟩ }).1 s' run⟩
  | error e s' =>
    rw [run] at done
    cases done

end PageBuild.SymbolFiles
