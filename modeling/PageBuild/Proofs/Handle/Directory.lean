import PageBuild.Proofs.FileTree.Growth
import PageBuild.Proofs.Handle.Running

/-! The private directory of a handle. It is made where nothing was, the arguments of every
compilation are written into it, and closing the handle takes it away. -/
namespace PageBuild

open Session

theorem Session.files_change {α : Type} (c : FileTree.Change α) (s : Session) :
    (after (change c) s).files = FileTree.changed c s.files := by
  unfold after change FileTree.changed
  cases c s.files <;> rfl

namespace Handle

variable {h : Handle} {c : Caller} {s s₁ : Session} {t : FileTree} {p : PathName} {place : Place}
  {options sources : List String} {e : Failure}

/-- A path to a place of its own: nothing stood there in a grounded tree. -/
structure IsHome (t : FileTree) (p : PathName) (place : Place) : Prop where
  grounded : t.IsGrounded
  led : t.resolve p.text = .ok place
  bare : t.entry? place = none
  parent : t.isDirectoryAt place.dropLast = true
  named : p.parts ≠ []

namespace IsHome

theorem place_ne_nil (home : IsHome t p place) : place ≠ [] := by
  rintro rfl
  cases home.bare

theorem name_ne_dots (home : IsHome t p place) : p.name ≠ ".." := by
  intro dots
  have last : p.parts.getLast home.named = ".." := by
    rwa [PathName.name, List.getLast?_eq_some_getLast home.named] at dots
  have led := FileTree.walk_of_resolve home.led
  rw [FileTree.namesOf_text home.named, ← List.dropLast_concat_getLast home.named, last] at led
  -- Two dots lead to a directory, and nothing stood at this place.
  have there := FileTree.isDirectoryAt_iff.mp (home.grounded.isDirectoryAt_of_walk_dots led)
  rw [home.bare] at there
  cases there

end IsHome

/-- What has become of a place of its own: the rest of the tree is still there, and the place is
there as long as the handle is open. -/
structure Dwells (t : FileTree) (place : Place) (isClosed : Bool) (files : FileTree) : Prop where
  grounded : files.IsGrounded
  keeps : t.Extends files
  directory : files.entry? place = if isClosed then none else some .directory
  file : files.entry? (place ++ ["arguments.txt"]) ≠ some .directory

/-! Arguments are written into a file of the private directory. -/

theorem argumentFile_text (named : h.workDir.parts ≠ []) :
    h.argumentFile.text = h.workDir.text ++ "/" ++ "arguments.txt" :=
  PathName.text_concat named rfl rfl

theorem fits_argumentFile (home : IsHome t h.workDir place)
    (within : Text.byteSize h.argumentFile.text < FileTree.pathLimit) :
    FileTree.Fits h.argumentFile.text := by
  have passed := (FileTree.fits_of_resolve home.led).passed
  refine ⟨?_, within, ?_⟩ <;> rw [argumentFile_text home.named]
  · simp only [TextFault.of?_append_eq_none_iff, passed, true_and]
    decide
  · intro empty
    simpa using congrArg String.toList empty

theorem origin_argumentFile (home : IsHome t h.workDir place) (files : FileTree) :
    files.origin h.argumentFile.text = files.origin h.workDir.text := by
  have named := (FileTree.fits_of_resolve home.led).named
  have head : h.argumentFile.text.toList.head? = h.workDir.text.toList.head? := by
    obtain ⟨first, rest, starts⟩ :=
      List.exists_cons_of_ne_nil (String.toList_eq_nil_iff.not.mpr named)
    simp [argumentFile_text home.named, starts]
  rw [FileTree.origin, head, FileTree.origin]

theorem resolve_argumentFile (home : IsHome t h.workDir place)
    (dwells : Dwells t place false s.files)
    (within : Text.byteSize h.argumentFile.text < FileTree.pathLimit) :
    s.files.resolve h.argumentFile.text = .ok (place ++ ["arguments.txt"]) := by
  have led := FileTree.walk_of_resolve (dwells.keeps.resolve home.led)
  rw [FileTree.namesOf_text home.named] at led
  refine FileTree.resolve_of_walk (fits_argumentFile home within) ?_
  have parts : h.argumentFile.parts = h.workDir.parts ++ ["arguments.txt"] := rfl
  rw [origin_argumentFile home, FileTree.namesOf_text (by simp [parts]), parts]
  exact FileTree.walk_concat led (FileTree.isDirectoryAt_iff.mpr dwells.directory) (by decide)
    (by decide) (by decide)

/-- The arguments can be passed on the command line, or in a file: then each has an encoding, and
the operating system takes the path of the file. -/
def CanPass (h : Handle) (arguments : List String) : Prop :=
  h.usesArgumentFile = true → (∀ argument ∈ arguments, Text.IsEncodable argument) ∧
    Text.byteSize h.argumentFile.text < FileTree.pathLimit

theorem canPass_of_prepare {arguments command : List String}
    (prepared : h.prepare arguments s = .ok command s₁) : h.CanPass arguments := by
  intro uses
  unfold prepare at prepared
  rw [if_pos uses] at prepared
  obtain ⟨⟨⟩, s₂, written, -⟩ := bind_eq_ok_iff.mp prepared
  obtain ⟨files, run, -⟩ := change_eq_ok written
  obtain ⟨encodable, run⟩ := FileTree.writeText_eq_ok_iff.mp run
  rcases FileTree.write_cases h.argumentFile.text
    (Utf8.encode (ArgumentFile.text arguments)) s.files with ⟨e, failed, -⟩ | ⟨place, _, led, -, -⟩
  · cases failed.symm.trans run
  · exact ⟨ArgumentFile.isEncodable_text_iff.mp encodable, (FileTree.fits_of_resolve led).within⟩

/-- Arguments that can be passed make a command. -/
theorem exists_prepare (home : IsHome t h.workDir place) (dwells : Dwells t place false s.files)
    {arguments : List String} (canPass : h.CanPass arguments) :
    ∃ command s₁, h.prepare arguments s = .ok command s₁ := by
  unfold prepare
  by_cases uses : h.usesArgumentFile = true
  · obtain ⟨encodable, within⟩ := canPass uses
    have parent : s.files.isDirectoryAt (place ++ ["arguments.txt"]).dropLast = true := by
      rw [List.dropLast_concat]
      exact FileTree.isDirectoryAt_iff.mpr dwells.directory
    obtain ⟨executable, written⟩ := FileTree.write_eq (Utf8.encode (ArgumentFile.text arguments))
      (resolve_argumentFile home dwells within) dwells.file parent
    rw [if_pos uses, FileTree.writeText_of_isEncodable
      (ArgumentFile.isEncodable_text_iff.mpr encodable)]
    exact ⟨_, _, bind_of_ok (change_of_ok written)⟩
  · rw [if_neg uses]
    exact ⟨_, s, rfl⟩

theorem dwells_put (home : IsHome t p place) {files : FileTree}
    (dwells : Dwells t place false files) {file : Entry} (isFile : file ≠ .directory) :
    Dwells t place false (files.put (place ++ ["arguments.txt"]) file) := by
  have named : place ++ ["arguments.txt"] ≠ [] := by simp
  have apart : place ≠ place ++ ["arguments.txt"] := by simp
  constructor
  · refine dwells.grounded.put _ dwells.file ?_
    rw [List.dropLast_concat]
    exact FileTree.isDirectoryAt_iff.mpr dwells.directory
  · exact dwells.keeps.put _ (home.grounded.entry?_append home.bare _)
  · rw [FileTree.entry?_put_other _ apart]
    exact dwells.directory
  · rw [FileTree.entry?_put_self _ named]
    simpa using isFile

/-- At most the argument file is written. -/
theorem files_prepare (home : IsHome t h.workDir place) (same : s.files.current = t.current)
    (arguments : List String) :
    (after (h.prepare arguments) s).files = s.files ∨
      s.files.entry? (place ++ ["arguments.txt"]) ≠ some .directory ∧
      ∃ content executable, (after (h.prepare arguments) s).files =
        s.files.put (place ++ ["arguments.txt"]) (.file content executable) := by
  by_cases uses : h.usesArgumentFile = true
  · have written : (after (h.prepare arguments) s).files = FileTree.changed
        (FileTree.writeText h.argumentFile.text (ArgumentFile.text arguments)) s.files := by
      unfold prepare
      rw [if_pos uses, ← files_change]
      exact Keeps.after_bind (fun _ => keeps_pure _) s
    have placed : s.files.placeOf h.argumentFile = place ++ ["arguments.txt"] := by
      have parts : h.argumentFile.parts = h.workDir.parts ++ ["arguments.txt"] := rfl
      have anchor : h.argumentFile.anchor = h.workDir.anchor := rfl
      rw [FileTree.placeOf_congr same, FileTree.eq_placeOf_of_resolve home.led,
        FileTree.placeOf, parts, anchor, List.foldl_append]
      rfl
    rw [written]
    rcases FileTree.changed_writeText h.argumentFile.text (ArgumentFile.text arguments) s.files with
      kept | ⟨found, executable, led, bare, put⟩
    · exact .inl kept
    · rw [FileTree.eq_placeOf_of_resolve led, placed] at bare put
      exact .inr ⟨bare, _, _, put⟩
  · unfold prepare
    rw [if_neg uses]
    exact .inl rfl

theorem dwells_prepare (home : IsHome t h.workDir place) (dwells : Dwells t place false s.files)
    (arguments : List String) : Dwells t place false (after (h.prepare arguments) s).files := by
  rcases files_prepare home dwells.keeps.current arguments with kept | ⟨-, _, _, put⟩
  · rwa [kept]
  · rw [put]
    exact dwells_put home dwells nofun

/-! Compiling and closing. -/

theorem requireOpen_of_open (isOpen : h.isClosed = false) (s : Session) :
    h.requireOpen s = .ok () s := by
  unfold requireOpen
  rw [isOpen]
  rfl

theorem setLocation_of_open (isOpen : h.isClosed = false) (l : Location) (paths : List PathName)
    (s : Session) : h.setLocation l paths s = .ok (h.withLocation paths l) s := by
  have start : h.setLocation l paths s = _ := bind_of_ok (requireOpen_of_open isOpen s)
  rw [start]
  cases l <;> rfl

def refused (h : Handle) (s : Session) : Session :=
  { s with journal := s.journal ++ [.logged .error h.closedFault.logText] }

theorem requireOpen_of_closed (isClosed : h.isClosed = true) (s : Session) :
    h.requireOpen s = .error (.fault h.closedFault) (h.refused s) := by
  unfold requireOpen
  rw [isClosed]
  rfl

theorem compile_of_prepare_error (isOpen : h.isClosed = false)
    (lost : h.prepare (h.arguments options sources) s = .error e s₁) :
    h.compile options sources s = .error e s₁ :=
  (bind_of_ok (requireOpen_of_open isOpen s)).trans (bind_of_error lost)

/-- Once its command is ready, a compilation starts its process and judges how that ends. -/
theorem compile_of_prepare {command : List String} (isOpen : h.isClosed = false)
    (prepared : h.prepare (h.arguments options sources) s = .ok command s₁) :
    h.compile options sources s = (Session.ofExcept (Command.complete command h.timeout
      s.nextEnding) >>= fun c => Session.ofExcept (h.judge c))
        (s₁.started {
          command, timeout := h.timeout, environment := s₁.environment, files := s₁.files }) := by
  have start : h.compile options sources s = _ :=
    (bind_of_ok (requireOpen_of_open isOpen s)).trans (bind_of_ok prepared)
  rw [start, ← (steady_nextEnding.keeps_prepare h _).of_ok prepared]
  exact bind_congr_at (Command.run_eq command h.timeout none [] s₁)

/-- A process changes no files. -/
theorem files_compile (isOpen : h.isClosed = false) (options sources : List String) (s : Session) :
    (after (h.compile options sources) s).files =
      (after (h.prepare (h.arguments options sources)) s).files := by
  cases prepared : h.prepare (h.arguments options sources) s with
  | ok command s₁ =>
    rw [after_of_ok prepared, after_congr_at (compile_of_prepare isOpen prepared),
      Keeps.after_bind (fun _ => keeps_files_ofExcept _), keeps_files_ofExcept]
    rfl
  | error e s₁ =>
    rw [after_of_error prepared, after_of_error (compile_of_prepare_error isOpen prepared)]

/-- It starts one process, however that ends. -/
theorem exists_launch_compile {command : List String} (isOpen : h.isClosed = false)
    (prepared : h.prepare (h.arguments options sources) s = .ok command s₁) :
    ∃ launch : Launch, launch.Passes h.toCaller (h.arguments options sources) ∧
      (after (h.compile options sources) s).launches = s.launches ++ [launch] := by
  refine ⟨{
    command, timeout := h.timeout, environment := s₁.environment, files := s₁.files },
    passes_of_prepare prepared rfl rfl, ?_⟩
  rw [after_congr_at (compile_of_prepare isOpen prepared),
    Keeps.after_bind (fun _ => steady_launches.keeps_ofExcept _), steady_launches.keeps_ofExcept,
    launches_started, (steady_launches.keeps_prepare h _).of_ok prepared]

/-- Without a command a compilation fails before it starts a process. -/
theorem exists_compile_error (isOpen : h.isClosed = false)
    (unpassed : ¬ h.CanPass (h.arguments options sources)) :
    ∃ e s₁, h.compile options sources s = .error e s₁ ∧ s₁.launches = s.launches := by
  cases prepared : h.prepare (h.arguments options sources) s with
  | ok command s₁ => exact absurd (canPass_of_prepare prepared) unpassed
  | error e s₁ =>
    exact ⟨e, s₁, compile_of_prepare_error isOpen prepared,
      (steady_launches.keeps_prepare h _).of_error prepared⟩

/-- Closing an open handle takes its directory away, with all that is in it. -/
theorem close_of_directory (home : IsHome t h.workDir place) (keeps : t.Extends s.files)
    (directory : s.files.entry? place = some .directory) (isOpen : h.isClosed = false) :
    h.close s = .ok { h with isClosed := true } { s with files := s.files.clear place } := by
  have led := keeps.resolve home.led
  have isDirectory := FileTree.isDirectoryAt_iff.mpr directory
  have there : s.files.exists? h.workDir.text = .ok true := by
    rw [FileTree.exists?_eq led, directory]
    rfl
  have removed : removeDirectory h.workDir s = .ok () { s with files := s.files.clear place } := by
    rw [← FileTree.removeTree_eq_clear led isDirectory home.named home.name_ne_dots]
    have asked : ask (·.exists? h.workDir.text) s = .ok true s := ask_eq_ok there
    exact bind_of_ok asked
  unfold close
  rw [isOpen]
  exact bind_of_ok removed

theorem dwells_clear (home : IsHome t p place) {files : FileTree}
    (dwells : Dwells t place false files) : Dwells t place true (files.clear place) := by
  constructor
  · exact dwells.grounded.clear place
  · exact dwells.keeps.clear home.grounded home.bare
  · exact FileTree.entry?_clear_below List.prefix_rfl home.place_ne_nil
  · rw [FileTree.entry?_clear_below (List.prefix_append _ _) home.place_ne_nil]
    simp

/-! The directory of a fresh handle. -/

def directoryName (name : String) (s : Session) : String :=
  s!"page_compiler_{name}_" ++ distinct (s.privates.length + 1)

def directoryFor (name : String) (s : Session) : PathName :=
  scratchRoot.join (.ofText (directoryName name s))

theorem exists_toList_directoryName (name : String) (s : Session) :
    ∃ rest, (directoryName name s).toList = 'p' :: rest := by
  unfold directoryName
  simp only [String.toList_append]
  exact ⟨_, rfl⟩

theorem anchor_ofText_directoryName (name : String) (s : Session) :
    (PathName.ofText (directoryName name s)).anchor = .relative := by
  obtain ⟨rest, starts⟩ := exists_toList_directoryName name s
  simp [PathName.ofText, PathName.anchorOf, starts]

theorem parts_directoryFor (name : String) (s : Session) :
    (directoryFor name s).anchor = scratchRoot.anchor ∧ (directoryFor name s).parts =
      scratchRoot.parts ++ PathName.partsOf (directoryName name s).toList := by
  unfold directoryFor PathName.join
  rw [if_pos (anchor_ofText_directoryName name s)]
  exact ⟨rfl, rfl⟩

theorem slash_notMem_distinct (n : Nat) : '/' ∉ (distinct n).toList := by
  intro slash
  simp only [distinct, String.toList_append, String.toList_ofList, List.mem_append,
    List.mem_replicate] at slash
  rcases slash with ⟨-, zero⟩ | digit
  · contradiction
  · have := Decimal.isDigit_or_minus_of_mem_text digit
    contradiction

theorem partsOf_directoryName {name : String} (single : '/' ∉ name.toList) (s : Session) :
    PathName.partsOf (directoryName name s).toList = [directoryName name s] := by
  obtain ⟨rest, starts⟩ := exists_toList_directoryName name s
  have noSlash : '/' ∉ (directoryName name s).toList := by
    have start : '/' ∉ "page_compiler_".toList := by decide
    have middle : '/' ∉ "_".toList := by decide
    simp only [directoryName, String.toList_append, List.mem_append, not_or]
    exact ⟨⟨⟨start, single⟩, middle⟩, slash_notMem_distinct _⟩
  have named : directoryName name s ≠ "" := by
    intro empty
    simp [empty] at starts
  have noDot : directoryName name s ≠ "." := by
    intro dot
    simp [dot] at starts
  simp [PathName.partsOf, Text.splitOn_of_notMem noSlash, named, noDot]

/-- The path of the argument file is short if the name of the compiler is a single name. -/
theorem argumentFile_lt (home : IsHome t (directoryFor h.name s) place)
    (workDir : h.workDir = directoryFor h.name s) (single : '/' ∉ h.name.toList) :
    Text.byteSize h.argumentFile.text < FileTree.pathLimit := by
  obtain ⟨anchor, parts⟩ := parts_directoryFor h.name s
  rw [partsOf_directoryName single] at parts
  have led := FileTree.walk_of_resolve home.led
  rw [FileTree.namesOf_text home.named] at led
  have short := FileTree.short_of_walk led (directoryName h.name s) (by simp [parts])
  have rooted : scratchRoot.parts ≠ [] := by decide
  have text : h.argumentFile.text =
      scratchRoot.text ++ "/" ++ directoryName h.name s ++ "/" ++ "arguments.txt" := by
    rw [argumentFile_text (workDir ▸ home.named), workDir, PathName.text_concat rooted anchor parts]
  have root : Text.byteSize scratchRoot.text = 4 := by decide
  have file : Text.byteSize "arguments.txt" = 13 := by decide
  have slash : Text.byteSize "/" = 1 := by decide
  simp only [text, Text.byteSize_append, root, slash, file]
  unfold FileTree.nameLimit at short
  unfold FileTree.pathLimit
  omega

/-- A fresh handle has a directory where nothing was. -/
theorem exists_home_of_open (grounded : s.files.IsGrounded) (opened : Handle.open c s = .ok h s₁) :
    ∃ place, IsHome s.files h.workDir place ∧ h = { c with workDir := directoryFor c.name s } ∧
      s₁.files = s.files.put place .directory := by
  obtain ⟨p, s₂, made, hpure⟩ := bind_eq_ok_iff.mp opened
  obtain ⟨rfl, rfl⟩ := pure_eq_ok_iff.mp hpure
  obtain ⟨rfl, files, run, rfl⟩ := makePrivate_eq_ok made
  obtain ⟨place, led, bare, parent, rfl⟩ := FileTree.makeDirectory_eq_ok run
  have named : (directoryFor c.name s).parts ≠ [] := by
    rw [(parts_directoryFor c.name s).2]
    exact List.append_ne_nil_of_left_ne_nil (by decide) _
  exact ⟨place, ⟨grounded, led, bare, parent, named⟩, rfl, rfl⟩

theorem exists_dwells_of_open (grounded : s.files.IsGrounded)
    (opened : Handle.open c s = .ok h s₁) :
    ∃ place, IsHome s.files (directoryFor c.name s) place ∧
      h = { c with workDir := directoryFor c.name s } ∧ Dwells s.files place false s₁.files := by
  obtain ⟨place, home, fresh, made⟩ := exists_home_of_open grounded opened
  have workDir : h.workDir = directoryFor c.name s := by rw [fresh]
  rw [workDir] at home
  have free : s.files.entry? place ≠ some .directory := by
    rw [home.bare]
    nofun
  have apart : place ++ ["arguments.txt"] ≠ place := by simp
  rw [made]
  refine ⟨place, home, fresh, ?_, ?_, ?_, ?_⟩
  · exact grounded.put _ free home.parent
  · exact (FileTree.Extends.refl s.files).put _ home.bare
  · exact FileTree.entry?_put_self _ home.place_ne_nil
  · rw [FileTree.entry?_put_other _ apart, grounded.entry?_append home.bare]
    nofun

end Handle
end PageBuild
