import Mathlib.Data.List.TakeWhile
import PageBuild.Proofs.Handle.Directory

/-! The life of a handle. Whatever is done with a handle, in whatever order and with whatever
success, it is open until it is first closed and is closed from then on; its private directory is
there exactly as long as it is open, and no compilation leaves anything behind that shows in a later
one. -/
namespace PageBuild

open Session

namespace Handle

/-- What can be done with a handle. Entering a block changes nothing, and a block is left with the
failure that went through it, if there is one. -/
inductive Operation
  | setLocation (l : Location) (paths : List PathName)
  | getLocation (l : Location)
  | arguments (options sources : List String)
  | compile (options sources : List String)
  | enter
  | leave (failure : Option Failure)
  | close

inductive Answer
  | done
  | paths (paths : List PathName)
  | arguments (arguments : List String)
  | diagnostics (diagnostics : List Diagnostic)

namespace Operation

def closes : Operation → Bool
  | .leave _ | .close => true
  | _ => false

def sets? (l : Location) : Operation → Option (List PathName)
  | .setLocation l' paths => if l' = l then some paths else none
  | _ => none

/-- The paths that a location was set to last, before a handle was closed. -/
def lastSet (l : Location) (operations : List Operation) : List PathName :=
  ((operations.takeWhile (!·.closes)).filterMap (·.sets? l)).getLast?.getD []

end Operation

def act (h : Handle) : Operation → Action (Handle × Answer)
  | .setLocation l paths => do return (← h.setLocation l paths, .done)
  | .getLocation l => return (h, .paths (h.getLocation l))
  | .arguments options sources => return (h, .arguments (h.arguments options sources))
  | .compile options sources => do return (h, .diagnostics (← h.compile options sources))
  | .enter => return (h, .done)
  | .leave failure => do
    let h ← h.close
    match failure with
    | some e => throw e
    | none => return (h, .done)
  | .close => do return (← h.close, .done)

structure Turn where
  handle : Handle
  answer : Except Failure Answer
  session : Session

/-- Performs an operation. A handle that somebody wanted to close is closed, however that went. -/
def perform (h : Handle) (o : Operation) (s : Session) : Turn :=
  match h.act o s with
  | .ok (h, answer) s => ⟨h, .ok answer, s⟩
  | .error e s => ⟨{ h with isClosed := h.isClosed || o.closes }, .error e, s⟩

def performAll (h : Handle) (s : Session) : List Operation → Handle × Session
  | [] => (h, s)
  | o :: rest => (h.perform o s).handle.performAll (h.perform o s).session rest

variable {h : Handle} {c : Caller} {s s₁ : Session} {t : FileTree} {p : PathName} {place : Place}
  {o : Operation} {l : Location} {done : List Operation} {options sources : List String}

/-! Operations, one at a time. -/

theorem perform_of_ok {h' : Handle} {answer : Answer} (acted : h.act o s = .ok (h', answer) s₁) :
    h.perform o s = ⟨h', .ok answer, s₁⟩ := by
  rw [perform, acted]

theorem perform_of_error {e : Failure} (acted : h.act o s = .error e s₁) :
    h.perform o s = ⟨{ h with isClosed := h.isClosed || o.closes }, .error e, s₁⟩ := by
  rw [perform, acted]

theorem perform_setLocation_of_open (isOpen : h.isClosed = false) (l : Location)
    (paths : List PathName) (s : Session) :
    h.perform (.setLocation l paths) s = ⟨h.withLocation paths l, .ok .done, s⟩ :=
  perform_of_ok ((bind_of_ok (setLocation_of_open isOpen l paths s)).trans rfl)

theorem perform_compile (h : Handle) (options sources : List String) (s : Session) :
    ∃ answer, h.perform (.compile options sources) s =
      ⟨h, answer, after (h.compile options sources) s⟩ := by
  cases run : h.compile options sources s with
  | ok found s₁ =>
    rw [after_of_ok run]
    exact ⟨_, perform_of_ok ((bind_of_ok run).trans rfl)⟩
  | error e s₁ =>
    rw [after_of_error run]
    refine ⟨.error e, (perform_of_error (bind_of_error run)).trans ?_⟩
    simp [Operation.closes]

theorem perform_leave (closed : h.close s = .ok { h with isClosed := true } s₁)
    (failure : Option Failure) : h.perform (.leave failure) s =
      ⟨{ h with isClosed := true }, failure.elim (.ok .done) .error, s₁⟩ := by
  cases failure with
  | none => exact perform_of_ok ((bind_of_ok closed).trans rfl)
  | some e =>
    refine (perform_of_error (bind_of_ok closed)).trans ?_
    simp [Operation.closes]

theorem perform_close (closed : h.close s = .ok { h with isClosed := true } s₁) :
    h.perform .close s = ⟨{ h with isClosed := true }, .ok .done, s₁⟩ :=
  perform_of_ok ((bind_of_ok closed).trans rfl)

theorem getLocation_withLocation (h : Handle) (paths : List PathName) (l l' : Location) :
    (h.withLocation paths l').getLocation l =
      ((Operation.setLocation l' paths).sets? l).getD (h.getLocation l) := by
  cases l <;> cases l' <;> rfl

structure Moves (t : FileTree) (place : Place) (h : Handle) (o : Operation) (turn : Turn) :
    Prop where
  caller : turn.handle.toCaller = h.toCaller
  workDir : turn.handle.workDir = h.workDir
  isClosed : turn.handle.isClosed = o.closes
  location : ∀ l, turn.handle.getLocation l = (o.sets? l).getD (h.getLocation l)
  dwells : Dwells t place o.closes turn.session.files

theorem moves_of_open (home : IsHome t h.workDir place) (dwells : Dwells t place false s.files)
    (isOpen : h.isClosed = false) (o : Operation) : Moves t place h o (h.perform o s) := by
  cases o with
  | setLocation l paths =>
    rw [perform_setLocation_of_open isOpen]
    refine ⟨toCaller_withLocation h paths l, ?_, ?_, fun l' => ?_, dwells⟩
    · cases l <;> rfl
    · cases l <;> exact isOpen
    · exact getLocation_withLocation h paths l' l
  | getLocation l => exact ⟨rfl, rfl, isOpen, fun _ => rfl, dwells⟩
  | arguments options sources => exact ⟨rfl, rfl, isOpen, fun _ => rfl, dwells⟩
  | compile options sources =>
    obtain ⟨answer, turn⟩ := perform_compile h options sources s
    rw [turn]
    refine ⟨rfl, rfl, isOpen, fun _ => rfl, ?_⟩
    change Dwells t place false (after (h.compile options sources) s).files
    rw [files_compile isOpen]
    exact dwells_prepare home dwells _
  | enter => exact ⟨rfl, rfl, isOpen, fun _ => rfl, dwells⟩
  | leave failure =>
    rw [perform_leave (close_of_directory home dwells.keeps dwells.directory isOpen)]
    exact ⟨rfl, rfl, rfl, fun l => by cases l <;> rfl, dwells_clear home dwells⟩
  | close =>
    rw [perform_close (close_of_directory home dwells.keeps dwells.directory isOpen)]
    exact ⟨rfl, rfl, rfl, fun l => by cases l <;> rfl, dwells_clear home dwells⟩

theorem close_of_closed (isClosed : h.isClosed = true) (s : Session) :
    h.close s = .ok { h with isClosed := true } s := by
  have same : { h with isClosed := true } = h := by rw [← isClosed]
  unfold close
  rw [same, isClosed]
  rfl

/-- A closed handle refuses everything but questions and being closed again. -/
theorem perform_of_closed (isClosed : h.isClosed = true) (o : Operation) (s : Session) :
    h.perform o s = match o with
      | .setLocation .. | .compile .. => ⟨h, .error (.fault h.closedFault), h.refused s⟩
      | .getLocation l => ⟨h, .ok (.paths (h.getLocation l)), s⟩
      | .arguments options sources => ⟨h, .ok (.arguments (h.arguments options sources)), s⟩
      | .enter | .close => ⟨h, .ok .done, s⟩
      | .leave failure => ⟨h, failure.elim (.ok .done) .error, s⟩ := by
  have same : { h with isClosed := true } = h := by rw [← isClosed]
  have refused := requireOpen_of_closed isClosed s
  cases o with
  | setLocation l paths =>
    refine (perform_of_error (bind_of_error (bind_of_error refused))).trans ?_
    simp [Operation.closes]
  | getLocation l => rfl
  | arguments options sources => rfl
  | compile options sources =>
    refine (perform_of_error (bind_of_error (bind_of_error refused))).trans ?_
    simp [Operation.closes]
  | enter => rfl
  | leave failure => rw [perform_leave (close_of_closed isClosed s), same]
  | close => rw [perform_close (close_of_closed isClosed s), same]

namespace Operation

theorem lastSet_append_of_open (isOpen : done.any (·.closes) = false) (o : Operation)
    (l : Location) : lastSet l (done ++ [o]) = (o.sets? l).getD (lastSet l done) := by
  have none : ∀ o ∈ done, (!o.closes) = true := by simpa using isOpen
  have whole : done.takeWhile (!·.closes) = done := List.takeWhile_eq_self_iff.mpr none
  unfold lastSet
  rw [List.takeWhile_append_of_pos none, whole, List.filterMap_append, List.getLast?_append]
  cases o <;> simp [closes, sets?, List.takeWhile]

theorem lastSet_append_of_closed (isClosed : done.any (·.closes) = true) (o : Operation)
    (l : Location) : lastSet l (done ++ [o]) = lastSet l done := by
  have short : (done.takeWhile (!·.closes)).length ≠ done.length := by
    intro same
    have whole := (List.takeWhile_prefix _).eq_of_length same
    have none := List.takeWhile_eq_self_iff.mp whole
    obtain ⟨o, member, closed⟩ := List.any_eq_true.mp isClosed
    simpa [closed] using none o member
  unfold lastSet
  rw [List.takeWhile_append, if_neg short]

end Operation

structure Lives (c : Caller) (t : FileTree) (p : PathName) (place : Place)
    (done : List Operation) (h : Handle) (s : Session) : Prop where
  caller : h.toCaller = c
  workDir : h.workDir = p
  isClosed : h.isClosed = done.any (·.closes)
  location : ∀ l, h.getLocation l = Operation.lastSet l done
  dwells : Dwells t place h.isClosed s.files

/-- One operation more: on an open handle it does what it is there for, on a closed one nothing. -/
theorem Lives.perform (home : IsHome t p place) (lives : Lives c t p place done h s)
    (o : Operation) :
    Lives c t p place (done ++ [o]) (h.perform o s).handle (h.perform o s).session := by
  obtain ⟨rfl, rfl, isClosed, location, dwells⟩ := lives
  have ever : (done ++ [o]).any (·.closes) = (h.isClosed || o.closes) := by simp [isClosed]
  cases status : h.isClosed with
  | false =>
    rw [status] at dwells isClosed ever
    obtain ⟨caller, workDir, closed, set, dwells⟩ := moves_of_open home dwells status o
    refine ⟨caller, workDir, ?_, fun l => ?_, ?_⟩
    · rw [closed, ever, Bool.false_or]
    · rw [set, location, Operation.lastSet_append_of_open isClosed.symm]
    · rw [closed]
      exact dwells
  | true =>
    rw [status] at isClosed ever
    have kept : (h.perform o s).handle = h ∧ (h.perform o s).session.files = s.files := by
      rw [perform_of_closed status]
      cases o <;> exact ⟨rfl, rfl⟩
    rw [kept.1]
    refine ⟨rfl, rfl, ?_, fun l => ?_, ?_⟩
    · rw [status, ever, Bool.true_or]
    · rw [location, Operation.lastSet_append_of_closed isClosed.symm]
    · rw [kept.2]
      exact dwells

theorem Lives.performAll (home : IsHome t p place) (lives : Lives c t p place done h s)
    (rest : List Operation) :
    Lives c t p place (done ++ rest) (h.performAll s rest).1 (h.performAll s rest).2 := by
  induction rest generalizing done h s with
  | nil => rwa [List.append_nil]
  | cons o rest ih =>
    have next := ih (lives.perform home o)
    rwa [List.append_assoc, List.singleton_append] at next

theorem lives_of_open (grounded : s.files.IsGrounded) (opened : Handle.open c s = .ok h s₁) :
    ∃ place, IsHome s.files (directoryFor c.name s) place ∧
      Lives c s.files (directoryFor c.name s) place [] h s₁ := by
  obtain ⟨place, home, rfl, dwells⟩ := exists_dwells_of_open grounded opened
  exact ⟨place, home, rfl, rfl, rfl, fun l => by cases l <;> rfl, dwells⟩

/-- What can be relied on after operations on a fresh handle, in whatever order and with whatever
success. -/
structure Sound (c : Caller) (done : List Operation) (h : Handle) (s : Session) : Prop where
  caller : h.toCaller = c
  grounded : s.files.IsGrounded
  /-- The handle is closed by the first operation that closes it, and for good. -/
  isClosed : h.isClosed = done.any (·.closes)
  /-- The private directory is there as long as the handle is open. -/
  directory : s.files.exists? h.workDir.text = .ok (!h.isClosed)
  location : ∀ l, h.perform (.getLocation l) s =
    ⟨h, .ok (.paths (Operation.lastSet l done)), s⟩
  /-- What would be passed can be asked at any time. -/
  arguments : ∀ options sources, h.perform (.arguments options sources) s =
    ⟨h, .ok (.arguments (h.arguments options sources)), s⟩
  /-- Closing never fails, and a failure that goes through a block is passed on. -/
  closing : ∃ s', h.perform .close s = ⟨{ h with isClosed := true }, .ok .done, s'⟩ ∧
    ∀ failure, h.perform (.leave failure) s =
      ⟨{ h with isClosed := true }, failure.elim (.ok .done) .error, s'⟩
  /-- A closed handle refuses to be used, and notes that; it can be closed again. -/
  refuses : h.isClosed = true →
    h.closedFault.kind = .backend ∧ h.closedFault.code = some "HANDLE_CLOSED" ∧
    (∀ l paths, h.perform (.setLocation l paths) s =
      ⟨h, .error (.fault h.closedFault), h.refused s⟩) ∧
    (∀ options sources, h.perform (.compile options sources) s =
      ⟨h, .error (.fault h.closedFault), h.refused s⟩) ∧
    h.perform .close s = ⟨h, .ok .done, s⟩
  /-- A compilation whose arguments can be passed starts one process, which is passed the arguments
  of the handle as it is; any other fails and starts none. -/
  starts : h.isClosed = false → ∀ options sources,
    (h.CanPass (h.arguments options sources) → ∃ launch : Launch,
      launch.Passes c (h.arguments options sources) ∧
      (h.perform (.compile options sources) s).session.launches = s.launches ++ [launch]) ∧
    (¬ h.CanPass (h.arguments options sources) →
      (∃ e, (h.perform (.compile options sources) s).answer = .error e) ∧
      (h.perform (.compile options sources) s).session.launches = s.launches)
  /-- Only a name that is a path of its own may have too long a path for its argument file. -/
  within : '/' ∉ c.name.toList → Text.byteSize h.argumentFile.text < FileTree.pathLimit

theorem Lives.sound {s₀ : Session} (home : IsHome t (directoryFor c.name s₀) place)
    (lives : Lives c t (directoryFor c.name s₀) place done h s) : Sound c done h s := by
  obtain ⟨rfl, workDir, isClosed, location, dwells⟩ := lives
  have within := argumentFile_lt home workDir
  rw [← workDir] at home
  have led := dwells.keeps.resolve home.led
  refine ⟨rfl, dwells.grounded, isClosed, ?_, fun l => ?_, fun _ _ => rfl, ?_, fun closed => ?_,
    fun isOpen options sources => ⟨fun canPass => ?_, fun unpassed => ?_⟩, within⟩
  · rw [FileTree.exists?_eq led, dwells.directory]
    cases h.isClosed <;> rfl
  · rw [← location]
    rfl
  · obtain ⟨s', closed⟩ : ∃ s', h.close s = .ok { h with isClosed := true } s' := by
      cases status : h.isClosed with
      | false =>
        rw [status] at dwells
        exact ⟨_, close_of_directory home dwells.keeps dwells.directory status⟩
      | true => exact ⟨s, close_of_closed status s⟩
    exact ⟨s', perform_close closed, perform_leave closed⟩
  · refine ⟨rfl, rfl, fun l paths => ?_, fun options sources => ?_, ?_⟩ <;>
      rw [perform_of_closed closed]
  · rw [isOpen] at dwells
    obtain ⟨command, s₁, prepared⟩ := exists_prepare home dwells canPass
    obtain ⟨launch, passes, started⟩ := exists_launch_compile isOpen prepared
    obtain ⟨answer, turn⟩ := perform_compile h options sources s
    rw [turn]
    exact ⟨launch, passes, started⟩
  · obtain ⟨e, s₁, failed, kept⟩ := exists_compile_error isOpen unpassed
    have turn : h.perform (.compile options sources) s = _ := perform_of_error (bind_of_error failed)
    rw [turn]
    exact ⟨⟨e, rfl⟩, kept⟩

/-- A handle is sound from the time it is opened, whatever is done with it. -/
theorem sound_of_open (grounded : s.files.IsGrounded) (opened : Handle.open c s = .ok h s₁)
    (operations : List Operation) :
    Sound c operations (h.performAll s₁ operations).1 (h.performAll s₁ operations).2 := by
  obtain ⟨place, home, fresh⟩ := lives_of_open grounded opened
  exact (fresh.performAll home operations).sound home

def bareSession : Session where
  files := ⟨[(["tmp"], .directory)], []⟩

def bareCaller : Caller where
  name := "javac"
  command := ["/j"]
  format := .javac
  encoding := "UTF-8"

theorem sound_of_open_bare : ∃ h s₁, bareSession.files.IsGrounded ∧
    Handle.open bareCaller bareSession = .ok h s₁ ∧
    Sound bareCaller [.compile [] ["A.java"], .leave none, .compile [] []]
      (h.performAll s₁ [.compile [] ["A.java"], .leave none, .compile [] []]).1
      (h.performAll s₁ [.compile [] ["A.java"], .leave none, .compile [] []]).2 := by
  have grounded : bareSession.files.IsGrounded := by decide
  have made : (Handle.open bareCaller bareSession matches .ok ..) = true := by decide +kernel
  cases opened : Handle.open bareCaller bareSession with
  | ok h s₁ => exact ⟨h, s₁, grounded, rfl, sound_of_open grounded opened _⟩
  | error e s₁ =>
    rw [opened] at made
    cases made

/-- An argument that is a surrogate by itself is written into no file, and its compiler is not
started. -/
theorem exists_compile_without_process : ¬ ∀ (c : Caller) (s s₁ : Session) (h : Handle),
    s.files.IsGrounded → c.usesArgumentFile = true → Handle.open c s = .ok h s₁ →
    ∀ options sources, ∃ launch : Launch,
      (h.perform (.compile options sources) s₁).session.launches = s₁.launches ++ [launch] := by
  intro claimed
  let lone : String := String.ofList [Text.surrogate 0xD800]
  have grounded : bareSession.files.IsGrounded := by decide
  have unstarted : (match Handle.open bareCaller bareSession with
      | .ok h s₁ => decide ((h.perform (.compile [] [lone]) s₁).session.launches = [])
      | .error _ _ => false) = true := by
    decide +kernel
  cases opened : Handle.open bareCaller bareSession with
  | ok h s₁ =>
    rw [opened] at unstarted
    obtain ⟨launch, started⟩ := claimed bareCaller bareSession s₁ h grounded rfl opened [] [lone]
    rw [of_decide_eq_true unstarted] at started
    simp at started
  | error e s₁ =>
    rw [opened] at unstarted
    cases unstarted

end Handle
end PageBuild
