import PageBuild.Proofs.SymbolFiles.Steps

/-! Where installations write. The path of a class file is seen from the output directory exactly if
no part of the class name begins with a slash; the files of such classes stay below the directory,
and those of the others do not depend on it. -/
namespace PageBuild.SymbolFiles

open Session

variable {directory file : PathName} {messages : Messages} {m : LineMap} {maps : LineMaps}
  {s : Session} {t t' : FileTree} {place : Place}

/-- The place is that of the file next to the class file, which is below the directory or, for a
rooted name, below the root. -/
def IsBeside (t : FileTree) (directory : PathName) (m : LineMap) (place : Place) : Prop :=
  ∃ p, m.classFile = .ok p ∧
    place = (if m.IsRooted then [] else t.placeOf directory) ++
      (p.parts.dropLast ++ [p.name ++ ".smap"])

structure Contained (directory : PathName) (maps : LineMaps) (t t' : FileTree) : Prop where
  relative : ∀ member ∈ maps, ∀ p, member.2.classFile = .ok p →
    (p.anchor = .relative ↔ ¬ member.2.IsRooted)
  /-- A file that is new, or was changed, is that of a class. -/
  written : ∀ place content executable, t'.entry? place = some (.file content executable) →
    t.entry? place ≠ some (.file content executable) →
    ∃ member ∈ maps, IsBeside t directory member.2 place
  /-- So is whatever is no longer as it was. -/
  lost : ∀ place entry, t.entry? place = some entry → t'.entry? place ≠ some entry →
    ∃ member ∈ maps, IsBeside t directory member.2 place
  /-- If no name is rooted, these files are below the directory. -/
  below : (∀ member ∈ maps, ¬ member.2.IsRooted) → ∀ place content executable,
    t'.entry? place = some (.file content executable) →
    t.entry? place ≠ some (.file content executable) →
    t.placeOf directory <+: place ∧ place ≠ t.placeOf directory

theorem isBeside_of_target (h : target directory m = .ok file) (t : FileTree) :
    IsBeside t directory m (t.placeOf file) := by
  obtain ⟨q, found, rfl⟩ := exists_smapFile_of_target h
  obtain ⟨init, last, p, files⟩ := LineMap.hasFiles_of_smapFile found
  refine ⟨p, files.classFile, ?_⟩
  have beside : q.parts = p.parts.dropLast ++ [p.name ++ ".smap"] := by
    rw [files.smapParts, PathName.name, files.classParts, List.dropLast_concat,
      List.getLast?_concat, Option.getD_some, String.append_assoc]
    rfl
  rw [FileTree.placeOf_join_of_plain _ _ (LineMap.plain_of_smapFile found), ← beside,
    files.smapAnchor]
  by_cases rooted : m.IsRooted
  · rw [if_neg (mt LineMap.anchor_classPath_eq_relative_iff.mp (not_not_intro rooted)),
      if_pos rooted]
  · rw [if_pos (LineMap.anchor_classPath_eq_relative_iff.mpr rooted), if_neg rooted]

theorem exists_isBeside_of_mem (h : place ∈ maps.flatMap fun member =>
    placesOf t directory member.2) : ∃ member ∈ maps, IsBeside t directory member.2 place := by
  obtain ⟨member, there, found⟩ := List.mem_flatMap.mp h
  unfold placesOf at found
  split at found
  · next file named =>
    obtain rfl := List.mem_singleton.mp found
    exact ⟨member, there, isBeside_of_target named t⟩
  · cases found

theorem IsBeside.below (h : IsBeside t directory m place) (free : ¬ m.IsRooted) :
    t.placeOf directory <+: place ∧ place ≠ t.placeOf directory := by
  obtain ⟨p, -, rfl⟩ := h
  rw [if_neg free]
  exact ⟨List.prefix_append _ _, by simp⟩

theorem files_install (directory : PathName) (messages : Messages) (maps : LineMaps)
    (s : Session) : (after (install directory messages (some maps)) s).files =
      (after (installEach directory messages maps) s).files := by
  cases maps <;> rfl

/-- An installation writes to the files of its classes only. Those are below the directory, but for
the classes whose names have a part that begins with a slash. -/
theorem contained_install (directory : PathName) (messages : Messages) (maps : LineMaps)
    (s : Session) :
    Contained directory maps s.files (after (install directory messages (some maps)) s).files := by
  have writes := writes_installEach directory messages maps s
  rw [← files_install] at writes
  have written : ∀ place content executable,
      (after (install directory messages (some maps)) s).files.entry? place =
        some (.file content executable) →
      s.files.entry? place ≠ some (.file content executable) →
      ∃ member ∈ maps, IsBeside s.files directory member.2 place := by
    intro place content executable there new
    refine exists_isBeside_of_mem (Decidable.of_not_not fun apart => new ?_)
    exact (writes.file_iff apart).mp there
  refine ⟨fun _ _ _ => LineMap.anchor_classFile_eq_relative_iff, written,
    fun place entry there gone => ?_, fun free place content executable there new => ?_⟩
  · exact exists_isBeside_of_mem (Decidable.of_not_not fun apart =>
      gone (writes.kept place entry apart there))
  · obtain ⟨member, found, beside⟩ := written place content executable there new
    exact beside.below (free member found)

def stray : LineMap := { generatedFile := "A.java", className := "/srv/A" }

/-- A consistent map is enough to write outside of the output directory. -/
theorem exists_written_outside :
    stray.IsConsistent ∧ (∃ p, stray.classFile = .ok p ∧ p.anchor ≠ .relative) ∧
      ∃ place content executable,
        (after (install (.ofText "out") {} (some [("A.java", stray)]))
          { files := ⟨[], []⟩ }).files.entry? place = some (.file content executable) ∧
        ¬ (⟨[], []⟩ : FileTree).placeOf (.ofText "out") <+: place := by
  have anchored : ∃ p, stray.classFile = .ok p ∧ p.anchor ≠ .relative := ⟨_, rfl, by decide⟩
  have isFile : ((after (install (.ofText "out") {} (some [("A.java", stray)]))
      { files := ⟨[], []⟩ }).files.entry? ["srv", "A.class.smap"]).map Entry.isFile =
        some true := by
    decide +kernel
  obtain ⟨entry, there, file⟩ := Option.map_eq_some_iff.mp isFile
  cases entry with
  | directory => cases file
  | file content executable =>
    exact ⟨by decide, anchored, _, content, executable, there, by decide⟩

end PageBuild.SymbolFiles
