import PageBuild.Backend
import PageBuild.Proofs.FileTree.Places
import PageBuild.Proofs.Session.Views

/-! Opening and closing handles. A handle that a backend hands out is open, knows no locations yet,
and has a private directory; whatever becomes of the files, it can be closed. Locations are all that
can be set in between. -/
namespace PageBuild

open Session

namespace Session

variable {α : Type}

theorem change_eq_ok {c : FileTree.Change α} {s s' : Session} {a : α}
    (h : change c s = .ok a s') : ∃ files, c s.files = .ok a files ∧ s' = { s with files } := by
  unfold change at h
  split at h
  · next files run =>
    cases h
    exact ⟨files, run, rfl⟩
  · cases h

theorem change_of_ok {c : FileTree.Change α} {s : Session} {a : α} {files : FileTree}
    (h : c s.files = .ok a files) : change c s = .ok a { s with files } := by
  simp only [change, h]

theorem change_of_error {c : FileTree.Change α} {s : Session} {e : PathFault} {files : FileTree}
    (h : c s.files = .error e files) :
    change c s = .error (.ofPath e) { s with files } := by
  simp only [change, h]

theorem attempt_of_ok {c : FileTree.Change Unit} {s : Session} {files : FileTree}
    (h : c s.files = .ok () files) : attempt c s = .ok (.ok ()) { s with files } := by
  simp only [attempt, h]

theorem attempt_of_refused {c : FileTree.Change Unit} {s : Session} {refusal : OsError}
    {files : FileTree} (h : c s.files = .error (.os refusal) files) :
    attempt c s = .ok (.error refusal) { s with files } := by
  simp only [attempt, h]

theorem attempt_of_text {c : FileTree.Change Unit} {s : Session} {e : TextFault}
    {files : FileTree} (h : c s.files = .error (.text e) files) :
    attempt c s = .error (.value (.text e)) { s with files } := by
  simp only [attempt, h]

theorem ask_eq_ok {question : FileTree → Except OsError α} {s : Session} {a : α}
    (h : question s.files = .ok a) : ask question s = .ok a s := by
  refine bind_eq_ok_iff.mpr ⟨s, s, rfl, ?_⟩
  simp only [h]
  rfl

/-- A private directory has a name that no earlier one has. -/
theorem makePrivate_eq_ok {start : String} {p : PathName} {s s' : Session}
    (h : makePrivate start s = .ok p s') :
    p = scratchRoot.join (.ofText (start ++ distinct (s.privates.length + 1))) ∧
      ∃ files, FileTree.makeDirectory p.text s.files = .ok () files ∧
        s' = { s with files, privates := s.privates ++ [p] } := by
  obtain ⟨_, s₁, got, h⟩ := bind_eq_ok_iff.mp h
  cases got
  obtain ⟨_, s₂, made, h⟩ := bind_eq_ok_iff.mp h
  obtain ⟨_, s₃, noted, h⟩ := bind_eq_ok_iff.mp h
  obtain ⟨rfl, rfl⟩ := pure_eq_ok_iff.mp h
  cases noted
  obtain ⟨files, run, rfl⟩ := change_eq_ok made
  exact ⟨rfl, files, run, rfl⟩

/-- If no private directory is made, nothing is. -/
theorem files_of_makePrivate_error {start : String} {e : Failure} {s s' : Session}
    (h : makePrivate start s = .error e s') : s'.files = s.files := by
  rcases bind_eq_error_iff.mp h with got | ⟨_, s₁, got, h⟩
  · cases got
  · cases got
    rcases bind_eq_error_iff.mp h with refused | ⟨_, s₂, made, h⟩
    · unfold change at refused
      split at refused
      · cases refused
      · next run =>
        cases refused
        exact FileTree.makeDirectory_of_error run
    · rcases bind_eq_error_iff.mp h with noted | ⟨_, s₃, noted, h⟩
      · cases noted
      · cases h

end Session

namespace Handle

structure IsFresh (h : Handle) : Prop where
  isOpen : h.isClosed = false
  outputs : h.outputs = []
  classPath : h.classPath = []
  workDir : ∃ files place, FileTree.resolve files h.workDir.text = .ok place

theorem isFresh_of_open {c : Caller} {h : Handle} {s s' : Session}
    (hopen : Handle.open c s = .ok h s') : h.IsFresh ∧ h.toCaller = c := by
  obtain ⟨workDir, _, made, hpure⟩ := bind_eq_ok_iff.mp hopen
  obtain ⟨rfl, -⟩ := pure_eq_ok_iff.mp hpure
  obtain ⟨-, files, run, -⟩ := makePrivate_eq_ok made
  obtain ⟨place, led, -⟩ := FileTree.makeDirectory_eq_ok run
  exact ⟨⟨rfl, rfl, rfl, _, place, led⟩, rfl⟩

theorem IsFresh.exists_close {h : Handle} (fresh : h.IsFresh) (s : Session) :
    ∃ s', h.close s = .ok { h with isClosed := true } s' := by
  obtain ⟨files, place, resolved⟩ := fresh.workDir
  obtain ⟨there, asked⟩ := FileTree.exists?_of_resolve resolved s.files
  have removed : ∃ s', removeDirectory h.workDir s = .ok () s' := by
    cases there <;> exact ⟨_, bind_eq_ok_iff.mpr ⟨_, s, ask_eq_ok asked, rfl⟩⟩
  obtain ⟨s', hremoved⟩ := removed
  refine ⟨s', ?_⟩
  unfold close
  rw [fresh.isOpen]
  exact bind_eq_ok_iff.mpr ⟨(), s', hremoved, rfl⟩

def withLocation (h : Handle) (paths : List PathName) : Location → Handle
  | .classOutput => { h with outputs := paths }
  | .classPath => { h with classPath := paths }

theorem eq_of_setLocation {h h' : Handle} {l : Location} {paths : List PathName} {s s' : Session}
    (hset : h.setLocation l paths s = .ok h' s') : h' = h.withLocation paths l := by
  obtain ⟨_, _, -, hpure⟩ := bind_eq_ok_iff.mp hset
  cases l <;> exact (pure_eq_ok_iff.mp hpure).1.symm

theorem toCaller_withLocation (h : Handle) (paths : List PathName) (l : Location) :
    (h.withLocation paths l).toCaller = h.toCaller := by
  cases l <;> rfl

end Handle

namespace Backend

variable {b : Backend} {encoding : String} {h : Handle} {s s' : Session}

theorem notFound_ne_ok (b : Backend) (h : Handle) : b.notFound ≠ .ok h :=
  b.messages.say_bind_throw_ne_ok _ _ _ h

/-- Looking for the compiler leaves the session as it is. -/
theorem eq_of_find {command : Option (List String)} (found : b.find s = .ok command s') :
    s' = s := by
  obtain ⟨_, s₁, got, found⟩ := bind_eq_ok_iff.mp found
  cases got
  cases located : b.locate s with
  | ok located' =>
    rw [located] at found
    exact (pure_eq_ok_iff.mp found).2.symm
  | error e =>
    rw [located] at found
    cases found

/-- A handle is opened for the compiler that its backend describes. -/
theorem open_of_acquire (hacquire : b.acquire encoding s = .ok h s') :
    ∃ command, Handle.open {
      name := b.name, command := command ++ b.launcherOptions, format := b.format, encoding
      successCodes := b.successCodes, usesArgumentFile := b.usesArgumentFile
      timeout := b.timeout, messages := b.messages } s = .ok h s' := by
  obtain ⟨command, s₁, hfind, hopen⟩ := bind_eq_ok_iff.mp hacquire
  obtain rfl := eq_of_find hfind
  split at hopen
  · exact absurd (ofExcept_eq_ok_iff.mp hopen).1 (b.notFound_ne_ok h)
  · exact absurd (ofExcept_eq_ok_iff.mp hopen).1 (b.notFound_ne_ok h)
  · next command _ => exact ⟨command, hopen⟩

/-- A backend that hands out no handle leaves the files as they are. -/
theorem files_of_acquire_error {e : Failure} (hacquire : b.acquire encoding s = .error e s') :
    s'.files = s.files := by
  rcases bind_eq_error_iff.mp hacquire with lost | ⟨command, s₁, found, hopen⟩
  · exact (Steady.keeps_find b).of_error lost
  · obtain rfl := eq_of_find found
    split at hopen
    · exact (keeps_files_ofExcept _).of_error hopen
    · exact (keeps_files_ofExcept _).of_error hopen
    · rcases bind_eq_error_iff.mp hopen with refused | ⟨_, s₂, -, opened⟩
      · exact files_of_makePrivate_error refused
      · cases opened

theorem isFresh_of_acquire (hacquire : b.acquire encoding s = .ok h s') : h.IsFresh := by
  obtain ⟨command, hopen⟩ := open_of_acquire hacquire
  exact (Handle.isFresh_of_open hopen).1

theorem format_of_acquire (hacquire : b.acquire encoding s = .ok h s') : h.format = b.format := by
  obtain ⟨command, hopen⟩ := open_of_acquire hacquire
  rw [(Handle.isFresh_of_open hopen).2]

end Backend
end PageBuild
