import PageBuild.Backend
import PageBuild.Proofs.Session.Run

/-! Views of a session that a backend leaves as they are. Up to the process of its compiler a
backend works on files and private directories, and it logs; whatever shows none of these is kept. -/
namespace PageBuild

open Session

namespace Session

variable {α β : Type}

/-- Neither the files, nor the private directories, nor the log show in the view. -/
structure Steady (view : Session → β) : Prop where
  files : ∀ s files, view { s with files } = view s
  privates : ∀ s privates, view { s with privates } = view s
  logged : ∀ s level text, view { s with journal := s.journal ++ [.logged level text] } = view s

theorem keeps_ask {view : Session → β} (question : FileTree → Except OsError α) :
    Keeps view (ask question) :=
  keeps_get.bind fun s => by
    cases question s.files with
    | ok a => exact keeps_pure a
    | error e => exact keeps_throw _

/-- A fault may be logged before it is thrown, and that is all that a failure does. -/
theorem keeps_ofExcept_of_logged {view : Session → β}
    (logged : ∀ s level text,
      view { s with journal := s.journal ++ [.logged level text] } = view s)
    (e : Except Failure α) : Keeps view (ofExcept e) := by
  cases e with
  | ok a => exact keeps_pure a
  | error f =>
    cases f with
    | fault f =>
      simp only [ofExcept, raise]
      split
      · exact (keeps_modify fun s => logged s _ _).bind fun _ => keeps_throw _
      · exact keeps_throw _
    | _ => exact keeps_throw _

theorem keeps_files_ofExcept (e : Except Failure α) : Keeps Session.files (ofExcept e) :=
  keeps_ofExcept_of_logged (fun _ _ _ => rfl) e

namespace Steady

variable {view : Session → β} (steady : Steady view)
include steady

theorem keeps_log (level : Level) (text : String) : Keeps view (log level text) :=
  keeps_modify fun s => steady.logged s level text

theorem keeps_ofExcept (e : Except Failure α) : Keeps view (ofExcept e) :=
  keeps_ofExcept_of_logged steady.logged e

theorem keeps_change (c : FileTree.Change α) : Keeps view (change c) := by
  intro s
  unfold after change
  cases c s.files <;> exact steady.files s _

theorem keeps_makePrivate (start : String) : Keeps view (makePrivate start) := by
  refine keeps_get.bind fun _ => (steady.keeps_change _).bind fun _ => ?_
  refine Keeps.bind ?_ fun _ => keeps_pure _
  exact keeps_modify fun s => steady.privates s _

theorem keeps_open (c : Caller) : Keeps view (Handle.open c) :=
  (steady.keeps_makePrivate _).bind fun _ => keeps_pure _

theorem keeps_requireOpen (h : Handle) : Keeps view h.requireOpen := by
  unfold Handle.requireOpen raise
  split
  · exact (steady.keeps_log _ _).bind fun _ => keeps_throw _
  · exact keeps_pure _

theorem keeps_setLocation (h : Handle) (l : Location) (paths : List PathName) :
    Keeps view (h.setLocation l paths) :=
  (steady.keeps_requireOpen h).bind fun _ => by cases l <;> exact keeps_pure _

theorem keeps_prepare (h : Handle) (arguments : List String) :
    Keeps view (h.prepare arguments) := by
  unfold Handle.prepare
  split
  · exact (steady.keeps_change _).bind fun _ => keeps_pure _
  · exact keeps_pure _

omit steady in
theorem keeps_find (b : Backend) : Keeps view b.find :=
  keeps_get.bind fun s => by
    cases b.locate s with
    | ok command => exact keeps_pure command
    | error e => exact keeps_throw _

theorem keeps_acquire (b : Backend) (encoding : String) : Keeps view (b.acquire encoding) :=
  (keeps_find b).bind fun command => by
    match command with
    | none | some [] => exact steady.keeps_ofExcept _
    | some (program :: rest) => exact steady.keeps_open _

theorem keeps_removeDirectory (p : PathName) : Keeps view (removeDirectory p) := by
  refine (keeps_ask _).bind fun there => ?_
  split
  · exact keeps_modify fun s => steady.files s _
  · exact keeps_pure _

theorem keeps_close (h : Handle) : Keeps view h.close := by
  unfold Handle.close
  split
  · exact keeps_pure _
  · exact (steady.keeps_removeDirectory _).bind fun _ => keeps_pure _

theorem keeps_attempt (c : FileTree.Change Unit) : Keeps view (attempt c) := by
  intro s
  unfold after attempt
  rcases c s.files with ⟨a, files⟩ | ⟨e, files⟩
  · exact steady.files s _
  · cases e <;> exact steady.files s _

end Steady
end Session
end PageBuild
