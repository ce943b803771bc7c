import PageBuild.Proofs.FileTree.Writing
import PageBuild.Proofs.LineMap.ClassName
import PageBuild.Proofs.LineMap.SourceMap
import PageBuild.Proofs.Session.Failures
import PageBuild.SymbolFiles

/-! One source map after the other. A map is written into its file, or the tree is left with nothing
new but directories, unless the text of the map has no encoding: its file is left empty then. Each
way in which a map is not written has its own failure. However an installation ends, it has written
to no files but those of its maps. -/
namespace PageBuild

open Session

namespace SymbolFiles

variable {directory file : PathName} {messages : Messages} {m : LineMap} {maps : LineMaps}
  {t t' : FileTree} {s s' : Session} {e : Failure}

theorem exists_smapFile_of_target (h : target directory m = .ok file) :
    ∃ q, m.smapFile = .ok q ∧ file = directory.join q := by
  unfold target at h
  split at h
  · next q found => exact ⟨q, found, (Except.ok.inj h).symm⟩
  · cases h

theorem isPassable_of_target (h : target directory m = .ok file) (above : directory.IsPassable)
    (passable : m.classPath.IsPassable) : file.IsPassable := by
  obtain ⟨q, found, rfl⟩ := exists_smapFile_of_target h
  intro part member
  rcases PathName.mem_parts_join member with inside | below
  · exact above part inside
  · exact (LineMap.isPassable_smapFile_iff found).mpr passable part below

theorem isPassable_target (h : target directory m = .ok file) (passable : file.IsPassable) :
    m.classPath.IsPassable := by
  obtain ⟨q, found, rfl⟩ := exists_smapFile_of_target h
  refine (LineMap.isPassable_smapFile_iff found).mp fun part member => passable part ?_
  unfold PathName.join
  split
  · exact List.mem_append_right _ member
  · exact member

/-- A source map stands in a file, and nothing else is new but directories. -/
structure Stored (file : PathName) (m : LineMap) (t t' : FileTree) : Prop where
  leads : t'.resolve file.text = .ok (t.placeOf file)
  holds : ∃ text, m.smap = .ok text ∧ Text.IsEncodable text ∧
    t'.contentOf file.text = .ok (Utf8.encode text)
  writes : FileTree.Writes [t.placeOf file] t t'

/-- The operating system refuses to write a map, or to make the directories above its file. -/
inductive Refuses (t : FileTree) (file : PathName) (m : LineMap) (refusal : OsError) : Prop
  | above {t' : FileTree}
    (failed : FileTree.ensureDirectory file.parent t = .error (.os refusal) t')
  | here {t' t'' : FileTree} {text : String}
    (made : FileTree.ensureDirectory file.parent t = .ok () t') (written : m.smap = .ok text)
    (failed : FileTree.writeText file.text text t' = .error (.os refusal) t'')

inductive Fails (directory : PathName) (messages : Messages) (m : LineMap) (t : FileTree) :
    Failure → Prop
  /-- The operating system refuses to write the map, and the fault says so. -/
  | refused {file : PathName} {refusal : OsError} {message : String}
    (named : target directory m = .ok file) (refused : Refuses t file m refusal)
    (said : messages.say .smapInstallFailed [.text m.className, .refusal refusal] = .ok message) :
    Fails directory messages m t (.fault {
      kind := .symbols, message, code := some "SMAP_WRITE_ERROR"
      facts := [("target", .text file.text)] })
  /-- It refuses, but that cannot be said. -/
  | unsaid {file : PathName} {refusal : OsError} {e : Failure}
    (named : target directory m = .ok file) (refused : Refuses t file m refusal)
    (unsaid : messages.say .smapInstallFailed [.text m.className, .refusal refusal] = .error e) :
    Fails directory messages m t e
  /-- The class has no name to put a suffix on. -/
  | nameless (none : m.classPath.parts = []) :
    Fails directory messages m t (.value (.emptyName ⟨m.classPath⟩))
  /-- A path cannot be passed to the operating system. -/
  | unpassable {fault : TextFault} (bad : ¬ directory.IsPassable ∨ ¬ m.classPath.IsPassable) :
    Fails directory messages m t (.value (.text fault))
  | long (long : ¬ m.IsWritable) : Fails directory messages m t (.value .longNumber)
  /-- The text of the map has no encoding. -/
  | unencodable {text : String} {e : Utf8.Unencodable} (written : m.smap = .ok text)
    (bad : Utf8.unencodable? (fun _ => false) text.toList = some e) :
    Fails directory messages m t (.value (.text (.unencodable e)))

/-- What a map that is not installed leaves behind: directories, and its file without content if the
text of the map has no encoding. -/
inductive Leaves (directory : PathName) (m : LineMap) (t : FileTree) : Failure → FileTree → Prop
  | unwritten {e : Failure} {t' : FileTree} (writes : FileTree.Writes [] t t') :
    Leaves directory m t e t'
  | emptied {file : PathName} {e : Utf8.Unencodable} {t' : FileTree} {executable : Bool}
    (named : target directory m = .ok file) (writes : FileTree.Writes [] t t')
    (bare : t'.entry? (t.placeOf file) ≠ some .directory) :
    Leaves directory m t (.value (.text (.unencodable e)))
      (t'.put (t.placeOf file) (.file [] executable))

section Making

variable {files : FileTree}

theorem write_of_made (made : FileTree.ensureDirectory file.parent s.files = .ok () files)
    (m : LineMap) : write file m s = (Session.ofExcept (m.smap.mapError .ofNumber) >>= fun text =>
      attempt (FileTree.writeText file.text text)) { s with files } :=
  bind_of_ok (attempt_of_ok made)

theorem write_of_smap {text : String}
    (made : FileTree.ensureDirectory file.parent s.files = .ok () files)
    (written : m.smap = .ok text) : write file m s =
      attempt (FileTree.writeText file.text text) { s with files } := by
  refine (write_of_made made m).trans (bind_of_ok ?_)
  rw [written]
  rfl

theorem write_of_not_isWritable
    (made : FileTree.ensureDirectory file.parent s.files = .ok () files)
    (long : ¬ m.IsWritable) : write file m s = .error (.value .longNumber) { s with files } := by
  refine (write_of_made made m).trans (bind_of_error ?_)
  cases written : m.smap with
  | ok text => exact absurd (SourceMap.exists_smap_iff_isWritable.mp ⟨text, written⟩) long
  | error e => rfl

/-- Once the directories are there, a map that has a text is written if the operating system takes
its file; the file is left empty if the text has no encoding. -/
theorem write_cases_of_smap {text : String}
    (made : FileTree.ensureDirectory file.parent s.files = .ok () files)
    (written : m.smap = .ok text) :
    (∃ refusal, write file m s = .ok (.error refusal) { s with files } ∧
        Refuses s.files file m refusal) ∨
      (∃ fault, write file m s = .error (.value (.text fault)) { s with files } ∧
        ¬ file.IsPassable) ∨
      ∃ place executable, files.resolve file.text = .ok place ∧
        files.entry? place ≠ some .directory ∧
        write file m s =
          let written := { s with
            files := files.put place (.file (FileTree.bytesOf text) executable) }
          match Utf8.unencodable? (fun _ => false) text.toList with
          | none => .ok (.ok ()) written
          | some e => .error (.value (.text (.unencodable e))) written := by
  rw [write_of_smap made written]
  rcases FileTree.writeText_cases file.text text files with
    ⟨e, failed, why⟩ | ⟨place, executable, led, bare, run⟩
  · cases e with
    | os refusal => exact .inl ⟨refusal, attempt_of_refused failed, .here made written failed⟩
    | text fault =>
      refine .inr (.inl ⟨fault, attempt_of_text failed, fun passable => ?_⟩)
      have passed := PathName.of?_text_eq_none_iff.mpr passable
      rw [why fault rfl] at passed
      cases passed
  · refine .inr (.inr ⟨place, executable, led, bare, ?_⟩)
    cases encoded : Utf8.unencodable? (fun _ => false) text.toList with
    | none =>
      rw [encoded] at run
      exact attempt_of_ok run
    | some fault =>
      rw [encoded] at run
      exact attempt_of_text run

end Making

/-- Directories are made first, and the map is written if it can be from then on. -/
theorem write_cases (file : PathName) (m : LineMap) (s : Session) :
    ∃ files, FileTree.Makes file.parent s.files files ∧
      ((∃ refusal, write file m s = .ok (.error refusal) { s with files } ∧
          Refuses s.files file m refusal) ∨
        (∃ fault, write file m s = .error (.value (.text fault)) { s with files } ∧
          ¬ file.IsPassable) ∨
        write file m s = .error (.value .longNumber) { s with files } ∧ ¬ m.IsWritable ∨
        ∃ text place executable, m.smap = .ok text ∧ files.resolve file.text = .ok place ∧
          files.entry? place ≠ some .directory ∧
          write file m s =
            let written := { s with
              files := files.put place (.file (FileTree.bytesOf text) executable) }
            match Utf8.unencodable? (fun _ => false) text.toList with
            | none => .ok (.ok ()) written
            | some e => .error (.value (.text (.unencodable e))) written) := by
  have makes := FileTree.onlyMakes_ensureDirectory file.parent s.files
  refine ⟨_, makes, ?_⟩
  cases made : FileTree.ensureDirectory file.parent s.files with
  | error e files =>
    rw [FileTree.changed_of_error made]
    cases e with
    | os refusal => exact .inl ⟨refusal, bind_of_ok (attempt_of_refused made), .above made⟩
    | text fault =>
      refine .inr (.inl ⟨fault, bind_of_error (attempt_of_text made), fun passable => ?_⟩)
      exact FileTree.neverText_ensureDirectory passable.parent _ _ _ made
  | ok _ files =>
    rw [FileTree.changed_of_ok made]
    cases written : m.smap with
    | error e =>
      have long : ¬ m.IsWritable := by
        rw [← SourceMap.exists_smap_iff_isWritable, written]
        nofun
      exact .inr (.inr (.inl ⟨write_of_not_isWritable made long, long⟩))
    | ok text =>
      rcases write_cases_of_smap made written with refused | spoiled | ⟨place, executable, done⟩
      · exact .inl refused
      · exact .inr (.inl spoiled)
      · exact .inr (.inr (.inr ⟨text, place, executable, rfl, done⟩))

/-- A file that was found on the way of new directories is where its path says. -/
theorem eq_placeOf_of_makes {t files : FileTree} {place : Place}
    (makes : FileTree.Makes file.parent t files) (led : files.resolve file.text = .ok place) :
    place = t.placeOf file :=
  (FileTree.eq_placeOf_of_resolve led).trans (FileTree.placeOf_congr makes.keeps.current file)

/-- What stands in a file after it was put there on the way of new directories. -/
theorem stored_of_put {t files : FileTree} {place : Place} {executable : Bool} {text : String}
    (makes : FileTree.Makes file.parent t files) (led : files.resolve file.text = .ok place)
    (bare : files.entry? place ≠ some .directory) (written : m.smap = .ok text)
    (encodable : Text.IsEncodable text) :
    Stored file m t (files.put place (.file (FileTree.bytesOf text) executable)) := by
  obtain rfl := eq_placeOf_of_makes makes led
  have put := FileTree.Writes.put bare (.file (FileTree.bytesOf text) executable)
  refine ⟨put.leads _ _ led, ⟨text, written, encodable, ?_⟩,
    ((FileTree.Writes.of_makes makes).mono (List.nil_subset _)).trans put⟩
  rw [FileTree.contentOf_put _ _ led bare, FileTree.bytesOf, if_pos encodable]

/-- A map that is installed is stored where its class is. -/
theorem stored_of_installOne (h : installOne directory messages m s = .ok () s') :
    ∃ file, target directory m = .ok file ∧ Stored file m s.files s'.files := by
  obtain ⟨file, s₁, first, h⟩ := bind_eq_ok_iff.mp h
  obtain ⟨named, rfl⟩ := ofExcept_eq_ok_iff.mp first
  refine ⟨file, named, ?_⟩
  obtain ⟨files, makes, ⟨refusal, refused, -⟩ | ⟨fault, failed, -⟩ | ⟨failed, -⟩ |
    ⟨text, place, executable, done, led, bare, run⟩⟩ := write_cases file m s
  · have last := (bind_of_ok refused).symm.trans h
    exact absurd (ofExcept_eq_ok_iff.mp last).1 (Messages.say_bind_throw_ne_ok _ _ _ _ _)
  · cases (bind_of_error failed).symm.trans h
  · cases (bind_of_error failed).symm.trans h
  · dsimp only at run
    split at run
    · next encoded =>
      cases (bind_of_ok run).symm.trans h
      exact stored_of_put makes led bare done
        (Utf8.unencodable?_eq_none_iff_isEncodable.mp encoded)
    · cases (bind_of_error run).symm.trans h

theorem fails_of_failed {refusal : OsError} (named : target directory m = .ok file)
    (refused : Refuses t file m refusal) (h : failed messages m file refusal = .error e) :
    Fails directory messages m t e := by
  rcases Except.bind_eq_error_iff.mp h with unsaid | ⟨message, said, thrown⟩
  · exact .unsaid named refused unsaid
  · cases thrown
    exact .refused named refused said

theorem fails_of_target (h : target directory m = .error e) :
    Fails directory messages m t e := by
  unfold target at h
  rcases m.files_cases with ⟨none, -, missing⟩ | ⟨init, last, p, q, files⟩
  · rw [missing] at h
    cases h
    exact .nameless none
  · rw [files.smapFile] at h
    cases h

theorem fails_of_not_isPassable {fault : TextFault} (named : target directory m = .ok file)
    (bad : ¬ file.IsPassable) : Fails directory messages m t (.value (.text fault)) :=
  .unpassable (not_and_or.mp fun good => bad (isPassable_of_target named good.1 good.2))

/-- A map that is not installed fails in one of its ways. -/
theorem fails_of_installOne (h : installOne directory messages m s = .error e s') :
    Leaves directory m s.files e s'.files ∧ Fails directory messages m s.files e := by
  rcases bind_eq_error_iff.mp h with unnamed | ⟨file, s₁, first, h⟩
  · rw [(keeps_files_ofExcept _).of_error unnamed]
    exact ⟨.unwritten (.refl [] _), fails_of_target (eq_of_ofExcept unnamed)⟩
  · obtain ⟨named, rfl⟩ := ofExcept_eq_ok_iff.mp first
    obtain ⟨files, makes, ⟨refusal, done, refused⟩ | ⟨fault, failed, bad⟩ | ⟨failed, long⟩ |
      ⟨text, place, executable, written, led, bare, run⟩⟩ := write_cases file m s
    · have last := (bind_of_ok done).symm.trans h
      rw [(keeps_files_ofExcept _).of_error last]
      exact ⟨.unwritten (.of_makes makes),
        fails_of_failed named refused (eq_of_ofExcept last)⟩
    · cases (bind_of_error failed).symm.trans h
      exact ⟨.unwritten (.of_makes makes), fails_of_not_isPassable named bad⟩
    · cases (bind_of_error failed).symm.trans h
      exact ⟨.unwritten (.of_makes makes), .long long⟩
    · dsimp only at run
      split at run
      · cases (bind_of_ok run).symm.trans h
      · next fault unencodable =>
        cases (bind_of_error run).symm.trans h
        obtain rfl := eq_placeOf_of_makes makes led
        have empty : FileTree.bytesOf text = [] := by
          refine if_neg fun encodable => ?_
          rw [Utf8.unencodable?_eq_none_iff_isEncodable.mpr encodable] at unencodable
          cases unencodable
        rw [empty]
        exact ⟨.emptied named (.of_makes makes) bare, .unencodable written unencodable⟩

def placesOf (t : FileTree) (directory : PathName) (m : LineMap) : List Place :=
  match target directory m with
  | .ok file => [t.placeOf file]
  | .error _ => []

theorem placesOf_of_target (h : target directory m = .ok file) (t : FileTree) :
    placesOf t directory m = [t.placeOf file] := by
  rw [placesOf, h]

theorem placesOf_congr {t t' : FileTree} (same : t'.current = t.current) (directory : PathName)
    (m : LineMap) : placesOf t' directory m = placesOf t directory m := by
  unfold placesOf
  simp only [FileTree.placeOf_congr same]

/-- Whatever a map leaves behind, no other file is touched. -/
theorem Leaves.writes (leaves : Leaves directory m t e t') :
    FileTree.Writes (placesOf t directory m) t t' := by
  cases leaves with
  | unwritten writes => exact writes.mono (List.nil_subset _)
  | emptied named writes bare =>
    rw [placesOf_of_target named]
    exact (writes.mono (List.nil_subset _)).trans (.put bare _)

theorem writes_installOne (directory : PathName) (messages : Messages) (m : LineMap)
    (s : Session) : FileTree.Writes (placesOf s.files directory m) s.files
      (after (installOne directory messages m) s).files := by
  cases run : installOne directory messages m s with
  | ok _ s' =>
    obtain ⟨file, named, stored⟩ := stored_of_installOne run
    rw [after_of_ok run, placesOf_of_target named]
    exact stored.writes
  | error e s' =>
    rw [after_of_error run]
    exact (fails_of_installOne run).1.writes

def installEach (directory : PathName) (messages : Messages) (maps : LineMaps) : Action Unit :=
  maps.forM fun (_, m) => installOne directory messages m

theorem installEach_of_install_ok (h : install directory messages (some maps) s = .ok () s') :
    ∃ s₁, installEach directory messages maps s = .ok () s₁ ∧ s₁.files = s'.files := by
  cases maps with
  | nil => exact ⟨s, rfl, ((keeps_modify fun _ => rfl : Keeps Session.files _).of_ok h).symm⟩
  | cons member maps => exact ⟨s', h, rfl⟩

theorem installEach_of_install_error
    (h : install directory messages (some maps) s = .error e s') :
    installEach directory messages maps s = .error e s' := by
  cases maps with
  | nil => cases h
  | cons member maps => exact h

/-- A run of installations writes nothing but the files of its maps, however it ends. -/
theorem writes_installEach (directory : PathName) (messages : Messages) (maps : LineMaps)
    (s : Session) :
    FileTree.Writes (maps.flatMap fun member => placesOf s.files directory member.2) s.files
      (after (installEach directory messages maps) s).files := by
  induction maps generalizing s with
  | nil => exact .refl _ _
  | cons member maps ih =>
    have here := writes_installOne directory messages member.2 s
    rw [List.flatMap_cons]
    cases run : installOne directory messages member.2 s with
    | ok _ s₁ =>
      have rest := ih s₁
      rw [after_of_ok run] at here
      simp only [placesOf_congr here.current] at rest
      have split : after (installEach directory messages (member :: maps)) s =
          after (installEach directory messages maps) s₁ := after_congr_at (bind_of_ok run)
      rw [split]
      exact (here.mono (List.subset_append_left _ _)).trans
        (rest.mono (List.subset_append_right _ _))
    | error e s₁ =>
      have stopped : after (installEach directory messages (member :: maps)) s = s₁ :=
        after_of_error (bind_of_error run)
      rw [after_of_error run] at here
      rw [stopped]
      exact here.mono (List.subset_append_left _ _)

end SymbolFiles
end PageBuild
