import PageBuild.Proofs.Handle.Directory
import PageBuild.Proofs.Handle.Trust

/-! How the compiler of an open handle fails. A process that does not run, or not to its end, is a
completion with a code of its own, and that code is a fault of the compiler; but what the operating
system has against a file that is there is passed on as it is. So are words that never reach it,
times that cannot be waited for or written, a clock that was set back, and numbers that are too
long. -/
namespace PageBuild

open Session Transcript

namespace Ending

/-- Why the process of a program is no completion, other than that its file is not there. -/
def obstacle? (program : String) (timeout : Option Quantity) : Ending → Option Failure
  | .exited .. => timeout.bind Command.unwaitable?
  | .timedOut => match timeout with
    | some (.whole n) => if Decimal.IsShort n then none else some (.value .longNumber)
    | _ => none
  | .notStarted => none
  | .notExecutable errno => if errno = .noEntry then none else some (.refused ⟨errno, program⟩)
  | .timed time ending => (ending.obstacle? program timeout).or
    (if time.isNegative then some (.value .negativeTime) else none)

theorem obstacle?_ne_fault (program : String) (timeout : Option Quantity) (ending : Ending)
    (f : Fault) : ending.obstacle? program timeout ≠ some (.fault f) := by
  induction ending with
  | exited code output errors =>
    intro late
    obtain ⟨time, -, late⟩ := Option.bind_eq_some_iff.mp late
    rcases Handle.unwaitable?_cases late with same | same <;> cases same
  | timedOut =>
    unfold obstacle?
    split
    · split <;> nofun
    · nofun
  | notStarted => nofun
  | notExecutable errno => by_cases missing : errno = .noEntry <;> simp [obstacle?, missing]
  | timed time ending ih =>
    simp only [obstacle?, ne_eq, Option.or_eq_some_iff, not_or, not_and]
    exact ⟨ih, fun _ => by split <;> nofun⟩

def IsUnfinished : Ending → Prop
  | .exited code _ _ => code < 0
  | .timed _ ending => ending.IsUnfinished
  | _ => True

end Ending

namespace Command

variable {command : List String} {program : String} {rest : List String}
  {timeout : Option Quantity} {ending : Ending} {e : Failure}

theorem code_failed_lt (command : List String) (reason : String) :
    (Completion.failed command reason).code < 0 :=
  Int.negSucc_lt_zero 0

/-- An obstacle is what its process fails with. Without one there is a completion, and a process that
did not finish has a code below zero. -/
theorem ended_by_obstacle (program : String) (rest : List String) (timeout : Option Quantity)
    (ending : Ending) :
    match ending.obstacle? program timeout with
    | some e => ended (program :: rest) timeout ending = .error e
    | none => ∃ c, ended (program :: rest) timeout ending = .ok c ∧
        (ending.IsUnfinished → c.code < 0) := by
  induction ending with
  | exited code output errors =>
    unfold Ending.obstacle? ended
    cases timeout.bind unwaitable? with
    | some e => rfl
    | none => exact ⟨_, rfl, id⟩
  | timedOut =>
    rcases timeout with _ | n | x
    · exact ⟨_, rfl, fun _ => code_failed_lt _ _⟩
    · simp only [Ending.obstacle?, ended, timeoutText, Decimal.written]
      by_cases short : Decimal.IsShort n
      · simp only [if_pos short]
        exact ⟨_, rfl, fun _ => code_failed_lt _ _⟩
      · simp only [if_neg short]
        rfl
    · exact ⟨_, rfl, fun _ => code_failed_lt _ _⟩
  | notStarted => exact ⟨_, rfl, fun _ => code_failed_lt _ _⟩
  | notExecutable errno =>
    unfold Ending.obstacle?
    by_cases missing : errno = .noEntry
    · rw [if_pos missing]
      exact ⟨_, if_pos missing, fun _ => code_failed_lt _ _⟩
    · rw [if_neg missing]
      exact if_neg missing
  | timed time ending ih =>
    unfold Ending.obstacle?
    cases inner : ending.obstacle? program timeout with
    | some e =>
      rw [inner] at ih
      exact Except.bind_eq_error_iff.mpr (.inl ih)
    | none =>
      rw [inner] at ih
      obtain ⟨c, done, below⟩ := ih
      rw [Option.none_or]
      cases negative : time.isNegative with
      | true => exact Except.bind_eq_error_iff.mpr (.inr ⟨c, done, if_pos negative⟩)
      | false =>
        exact ⟨c, Except.bind_eq_ok_iff.mpr ⟨c, done, checkTime_eq_ok_iff.mpr ⟨negative, rfl⟩⟩,
          below⟩

theorem exists_ended (program : String) (rest : List String)
    (free : ending.obstacle? program timeout = none) :
    ∃ c, ended (program :: rest) timeout ending = .ok c ∧ (ending.IsUnfinished → c.code < 0) := by
  have ends := ended_by_obstacle program rest timeout ending
  rwa [free] at ends

theorem ended_of_obstacle (obstacle : ending.obstacle? program timeout = some e) :
    ended (program :: rest) timeout ending = .error e := by
  have ends := ended_by_obstacle program rest timeout ending
  rwa [obstacle] at ends

theorem spoiled?_of_words {fault : TextFault} (bad : command.findSome? TextFault.of? = some fault) :
    spoiled? command none [] = some (.text fault) := by
  have spoiled : spoiled? command none [] =
      command.findSome? (Option.map ValueFault.text ∘ TextFault.of?) := by
    simp [spoiled?, Function.comp_def]
  rw [spoiled, ← List.map_findSome?, bad]
  rfl

/-- A command returns a completion exactly if it can be passed to the operating system and nothing
stands in the way of its process. -/
theorem exists_run_iff (program : String) (rest : List String) (timeout : Option Quantity)
    (directory : Option String) (added : List (String × String)) (s : Session) :
    (∃ c s', run (program :: rest) timeout directory added s = .ok c s') ↔
      IsPassable (program :: rest) directory added ∧
        s.nextEnding.obstacle? program timeout = none := by
  rw [run_eq, ← spoiled?_eq_none_iff]
  simp only [ofExcept_eq_ok_iff, complete_eq_ok_iff]
  constructor
  · rintro ⟨c, s', ⟨passed, done⟩, -⟩
    refine ⟨passed, ?_⟩
    cases obstacle : s.nextEnding.obstacle? program timeout with
    | none => rfl
    | some e => cases (ended_of_obstacle obstacle).symm.trans done
  · rintro ⟨passed, free⟩
    obtain ⟨c, done, -⟩ := exists_ended program rest free
    exact ⟨c, _, ⟨passed, done⟩, rfl⟩

end Command

namespace Handle

variable {h : Handle} {options sources command : List String} {c : Completion} {s s₁ : Session}
  {e : Failure}

def Ends (h : Handle) (options sources : List String) (s : Session) (c : Completion) : Prop :=
  ∃ command s₁, h.prepare (h.arguments options sources) s = .ok command s₁ ∧
    Command.complete command h.timeout s.nextEnding = .ok c

/-- The ways in which a compilation of an open handle fails with no fault. -/
inductive Escapes (h : Handle) (options sources : List String) (s : Session) : Failure → Prop
  /-- The argument file cannot be written. -/
  | unwritten {e : PathFault} {files : FileTree} (uses : h.usesArgumentFile = true)
    (failed : FileTree.writeText h.argumentFile.text
      (ArgumentFile.text (h.arguments options sources)) s.files = .error e files) :
    Escapes h options sources s (.ofPath e)
  /-- A word of the command cannot be passed to the operating system. -/
  | unpassed {command : List String} {s₁ : Session} {fault : TextFault}
    (prepared : h.prepare (h.arguments options sources) s = .ok command s₁)
    (bad : command.findSome? TextFault.of? = some fault) :
    Escapes h options sources s (.value (.text fault))
  /-- Something stands in the way of the process: the operating system refuses to execute the
  compiler, the time for it cannot be waited for or written, or the clock was set back. -/
  | unended {program : String} {rest : List String} {s₁ : Session} {e : Failure}
    (prepared : h.prepare (h.arguments options sources) s = .ok (program :: rest) s₁)
    (passable : Command.IsPassable (program :: rest) none [])
    (obstacle : s.nextEnding.obstacle? program h.timeout = some e) :
    Escapes h options sources s e
  /-- A transcript with an accepted code has a line number that is too long to be read. -/
  | unread {c : Completion} {n : Text.LongNumeral} (ends : h.Ends options sources s c)
    (known : c.code ∈ h.successCodes) (long : parse h.format c.text = .error n) :
    Escapes h options sources s (.value (.numeral n))
  /-- The code is too long to be written, which the code of a process never is. -/
  | unsaid {c : Completion} {m : Template.Mistake} (ends : h.Ends options sources s c)
    (long : Text.numeralLimit < Decimal.length c.code.natAbs)
    (failed : h.judge c = .error (.value (.template m))) :
    Escapes h options sources s (.value (.template m))

/-- A fault is raised with its message, if that can be said; it can unless the code is too long. -/
theorem fault_cases {key : MessageKey} {code about : String} (messages : h.messages = {})
    (sayable : Decimal.length c.code.natAbs ≤ Text.numeralLimit →
      ∃ message, ({} : Messages).say key [.int c.code, .text about] = .ok message)
    (failed : h.fault key code c about = .error e) :
    (∃ message, e = .fault {
      kind := .backend, message, code := some code
      facts := [("command", .texts c.command), ("return_code", .int c.code),
        ("stderr", .text c.errors)] }) ∨
    Text.numeralLimit < Decimal.length c.code.natAbs ∧ ∃ m, e = .value (.template m) := by
  unfold fault at failed
  rw [messages] at failed
  rcases Except.bind_eq_error_iff.mp failed with unsaid | ⟨message, -, thrown⟩
  · refine .inr ⟨Nat.lt_of_not_le fun fits => ?_, Messages.exists_template_of_say unsaid⟩
    obtain ⟨message, said⟩ := sayable fits
    rw [said] at unsaid
    cases unsaid
  · exact .inl ⟨message, (Except.error.inj thrown).symm⟩

/-- A failure is a fault of the backend, or the code is too long to be written. -/
def IsRaised (c : Completion) (e : Failure) : Prop :=
  (∃ f, e = .fault f ∧ f.kind = .backend) ∨
    Text.numeralLimit < Decimal.length c.code.natAbs ∧ ∃ m, e = .value (.template m)

theorem isRaised_of_fault {key : MessageKey} {code about : String} (messages : h.messages = {})
    (sayable : Decimal.length c.code.natAbs ≤ Text.numeralLimit →
      ∃ message, ({} : Messages).say key [.int c.code, .text about] = .ok message)
    (failed : h.fault key code c about = .error e) : IsRaised c e := by
  rcases fault_cases messages sayable failed with ⟨message, rfl⟩ | long
  · exact .inl ⟨_, rfl, rfl⟩
  · exact .inr long

theorem judge_of_unknown (unknown : c.code ∉ h.successCodes) :
    h.judge c = h.fault .backendFault "BACKEND_FAULT" c c.text := by
  unfold judge
  rw [if_pos (by simpa using unknown)]

/-- A handle that objects to its compiler raises that, unless it could not read the transcript. -/
theorem judge_cases (messages : h.messages = {}) (failed : h.judge c = .error e) :
    IsRaised c e ∨ ∃ n, c.code ∈ h.successCodes ∧ parse h.format c.text = .error n ∧
      e = .value (.numeral n) := by
  unfold judge at failed
  split at failed
  · exact .inl (isRaised_of_fault messages
      (fun fits => ⟨_, Messages.say_backendFault fits _⟩) failed)
  · next known =>
    split at failed
    · next n long =>
      exact .inr ⟨n, by simpa using known, long, (Except.error.inj failed).symm⟩
    · dsimp only at failed
      split at failed
      · exact .inl (isRaised_of_fault messages
          (fun fits => ⟨_, Messages.say_backendFault fits _⟩) failed)
      · split at failed
        · exact .inl (isRaised_of_fault messages
            (fun fits => ⟨_, Messages.say_unparsedFailure fits _⟩) failed)
        · cases failed

/-! Compilations, by what becomes of their process. -/

theorem prepare_of_write_error {arguments : List String} {e : PathFault} {files : FileTree}
    (uses : h.usesArgumentFile = true) (failed : FileTree.writeText h.argumentFile.text
      (ArgumentFile.text arguments) s.files = .error e files) :
    h.prepare arguments s = .error (.ofPath e) { s with files } := by
  unfold prepare
  rw [if_pos uses]
  exact bind_of_error (change_of_error failed)

theorem unwritten_of_prepare_error
    (lost : h.prepare (h.arguments options sources) s = .error e s₁) :
    h.Escapes options sources s e := by
  unfold prepare at lost
  split at lost
  · next uses =>
    rcases bind_eq_error_iff.mp lost with failed | ⟨_, _, -, done⟩
    · unfold change at failed
      split at failed
      · cases failed
      · next e' files written =>
        cases failed
        exact .unwritten uses written
    · cases done
  · cases lost

theorem exists_compile_of_complete_error (isOpen : h.isClosed = false)
    (prepared : h.prepare (h.arguments options sources) s = .ok command s₁)
    (failed : Command.complete command h.timeout s.nextEnding = .error e) :
    ∃ s', h.compile options sources s = .error e s' := by
  rw [compile_of_prepare isOpen prepared]
  obtain ⟨s', raised⟩ := exists_ofExcept_eq_error failed _
  exact ⟨s', bind_of_error raised⟩

theorem exists_compile_of_ends (isOpen : h.isClosed = false) (ends : h.Ends options sources s c) :
    ∃ s', h.compile options sources s = Session.ofExcept (h.judge c) s' := by
  obtain ⟨command, s₁, prepared, completed⟩ := ends
  rw [compile_of_prepare isOpen prepared, completed]
  exact ⟨_, rfl⟩

/-- A command that is prepared escapes as its words or its process do, or ends. -/
theorem escapes_or_ends_of_prepare
    (prepared : h.prepare (h.arguments options sources) s = .ok command s₁) :
    (∃ e, Command.complete command h.timeout s.nextEnding = .error e ∧
      h.Escapes options sources s e) ∨
    ∃ c, h.Ends options sources s c ∧ (s.nextEnding.IsUnfinished → c.code < 0) := by
  obtain ⟨program, rest, rfl⟩ := List.exists_cons_of_ne_nil (ne_nil_of_prepare prepared)
  cases bad : (program :: rest).findSome? TextFault.of? with
  | some fault =>
    exact .inl ⟨_, Command.complete_of_spoiled (Command.spoiled?_of_words bad),
      .unpassed prepared bad⟩
  | none =>
    have passable : Command.IsPassable (program :: rest) none [] :=
      ⟨List.findSome?_eq_none_iff.mp bad, nofun, nofun⟩
    have passed := Command.spoiled?_eq_none_iff.mpr passable
    cases obstacle : s.nextEnding.obstacle? program h.timeout with
    | some e =>
      refine .inl ⟨e, ?_, .unended prepared passable obstacle⟩
      rw [Command.complete_of_not_spoiled passed, Command.ended_of_obstacle obstacle]
    | none =>
      obtain ⟨c, done, below⟩ := Command.exists_ended program rest obstacle
      exact .inr ⟨c, ⟨_, s₁, prepared, Command.complete_eq_ok_iff.mpr ⟨passed, done⟩⟩, below⟩

/-- What can become of a compilation before its compiler is judged. -/
theorem escapes_or_ends (isOpen : h.isClosed = false) (options sources : List String)
    (s : Session) :
    (∃ e s', h.compile options sources s = .error e s' ∧ h.Escapes options sources s e) ∨
      ∃ c, h.Ends options sources s c ∧ (s.nextEnding.IsUnfinished → c.code < 0) := by
  cases prepared : h.prepare (h.arguments options sources) s with
  | error e s' =>
    exact .inl ⟨e, s', compile_of_prepare_error isOpen prepared,
      unwritten_of_prepare_error prepared⟩
  | ok command s₁ =>
    refine (escapes_or_ends_of_prepare prepared).imp_left fun ⟨e, failed, escapes⟩ => ?_
    obtain ⟨s', run⟩ := exists_compile_of_complete_error isOpen prepared failed
    exact ⟨e, s', run, escapes⟩

theorem escapes_of_compile (isOpen : h.isClosed = false) (messages : h.messages = {})
    (failed : h.compile options sources s = .error e s₁)
    (other : ∀ f, e = .fault f → f.kind ≠ .backend) : h.Escapes options sources s e := by
  rcases escapes_or_ends isOpen options sources s with ⟨e', s', run, escapes⟩ | ⟨c, ends, -⟩
  · cases run.symm.trans failed
    exact escapes
  · obtain ⟨s₂, run⟩ := exists_compile_of_ends isOpen ends
    have judged := eq_of_ofExcept (run.symm.trans failed)
    rcases judge_cases messages judged with
      (⟨f, rfl, kind⟩ | ⟨long, m, rfl⟩) | ⟨n, known, long, rfl⟩
    · exact absurd kind (other f rfl)
    · exact .unsaid ends long judged
    · exact .unread ends known long

theorem judge_of_unreadable {n : Text.LongNumeral} (known : c.code ∈ h.successCodes)
    (long : parse h.format c.text = .error n) : h.judge c = .error (.value (.numeral n)) := by
  unfold judge
  rw [if_neg (by simpa using known)]
  simp only [long]

namespace Escapes

variable (escapes : h.Escapes options sources s e)
include escapes

theorem exists_compile (isOpen : h.isClosed = false) :
    ∃ s', h.compile options sources s = .error e s' := by
  cases escapes with
  | unwritten uses failed =>
    exact ⟨_, compile_of_prepare_error isOpen (prepare_of_write_error uses failed)⟩
  | unpassed prepared bad =>
    exact exists_compile_of_complete_error isOpen prepared
      (Command.complete_of_spoiled (Command.spoiled?_of_words bad))
  | unended prepared passable obstacle =>
    refine exists_compile_of_complete_error isOpen prepared ?_
    rw [Command.complete_of_not_spoiled (Command.spoiled?_eq_none_iff.mpr passable),
      Command.ended_of_obstacle obstacle]
  | unread ends known long =>
    obtain ⟨s₁, run⟩ := exists_compile_of_ends isOpen ends
    rw [run]
    exact exists_ofExcept_eq_error (judge_of_unreadable known long) s₁
  | unsaid ends long failed =>
    obtain ⟨s₁, run⟩ := exists_compile_of_ends isOpen ends
    rw [run]
    exact exists_ofExcept_eq_error failed s₁

theorem ne_fault (f : Fault) : e ≠ .fault f := by
  cases escapes with
  | @unwritten e => cases e <;> nofun
  | unpassed => nofun
  | unended _ _ obstacle =>
    rintro rfl
    exact Ending.obstacle?_ne_fault _ _ _ f obstacle
  | unread => nofun
  | unsaid => nofun

end Escapes

/-- A compilation whose process does not finish fails; if the codes are the usual ones, it does so
with a fault that tells how the process ended. -/
theorem exists_compile_of_isUnfinished (isOpen : h.isClosed = false) (messages : h.messages = {})
    (usual : h.successCodes = [0, 1]) (unfinished : s.nextEnding.IsUnfinished) :
    ∃ e s', h.compile options sources s = .error e s' ∧ (h.Escapes options sources s e ∨
      ∃ c message, h.Ends options sources s c ∧ e = .fault {
        kind := .backend, message, code := some "BACKEND_FAULT"
        facts := [("command", .texts c.command), ("return_code", .int c.code),
          ("stderr", .text c.errors)] }) := by
  rcases escapes_or_ends isOpen options sources s with ⟨e, s', run, escapes⟩ | ⟨c, ends, below⟩
  · exact ⟨e, s', run, .inl escapes⟩
  · -- The codes that stand for a process that did not finish are below zero, so none is usual.
    have unknown : c.code ∉ h.successCodes := by
      have := below unfinished
      rw [usual, List.mem_cons, List.mem_singleton]
      omega
    obtain ⟨s₁, run⟩ := exists_compile_of_ends isOpen ends
    cases judged : h.judge c with
    | ok found => exact absurd (judge_eq_ok_iff.mp judged).1 unknown
    | error e =>
      obtain ⟨s₂, raised⟩ := exists_ofExcept_eq_error judged s₁
      rw [judge_of_unknown unknown] at judged
      refine ⟨e, s₂, run.trans raised, ?_⟩
      rcases fault_cases messages (fun fits => ⟨_, Messages.say_backendFault fits _⟩) judged with
        ⟨message, rfl⟩ | ⟨long, m, rfl⟩
      · exact .inr ⟨c, message, ends, rfl⟩
      · exact .inl (.unsaid ends long ((judge_of_unknown unknown).trans judged))

/-- A command returns a completion exactly if it can be passed to the operating system and nothing
stands in the way of its process. An open handle turns whatever else can happen to the process into
diagnostics or a fault; with the usual codes it is a fault if the process does not finish. -/
theorem fault_unless_escapes (isOpen : h.isClosed = false) (messages : h.messages = {})
    (options sources : List String) (s : Session) :
    (∀ program rest timeout directory added,
      (∃ c s', Command.run (program :: rest) timeout directory added s = .ok c s') ↔
        Command.IsPassable (program :: rest) directory added ∧
          s.nextEnding.obstacle? program timeout = none) ∧
    (∀ e, ((∃ s', h.compile options sources s = .error e s') ∧
        ∀ f, e = .fault f → f.kind ≠ .backend) ↔ h.Escapes options sources s e) ∧
    (h.successCodes = [0, 1] → s.nextEnding.IsUnfinished →
      ∃ e s', h.compile options sources s = .error e s' ∧ (h.Escapes options sources s e ∨
        ∃ c message, h.Ends options sources s c ∧ e = .fault {
          kind := .backend, message, code := some "BACKEND_FAULT"
          facts := [("command", .texts c.command), ("return_code", .int c.code),
            ("stderr", .text c.errors)] })) := by
  refine ⟨fun program rest timeout directory added =>
    Command.exists_run_iff program rest timeout directory added s, fun e => ?_,
    exists_compile_of_isUnfinished isOpen messages⟩
  constructor
  · rintro ⟨⟨s', failed⟩, other⟩
    exact escapes_of_compile isOpen messages failed other
  · intro escapes
    exact ⟨escapes.exists_compile isOpen, fun f fault => absurd fault (escapes.ne_fault f)⟩

def late : Session := { files := ⟨[], []⟩, endings := [.timedOut] }

theorem fault_unless_escapes_late :
    direct.isClosed = false ∧ direct.messages = {} ∧ direct.successCodes = [0, 1] ∧
      late.nextEnding.IsUnfinished ∧ ∃ f s', direct.compile [] ["A.java"] late =
        .error (.fault f) s' ∧ f.kind = .backend ∧ f.code = some "BACKEND_FAULT" := by
  have code {c : Completion} (ends : direct.Ends [] ["A.java"] late c) : c.code = -1 := by
    obtain ⟨command, s₁, prepared, completed⟩ := ends
    cases prepared
    cases (Command.complete_eq_ok_iff.mp completed).2
    rfl
  refine ⟨rfl, rfl, rfl, trivial, ?_⟩
  obtain ⟨e, s', failed, escapes | ⟨c, message, -, rfl⟩⟩ :=
    (fault_unless_escapes (h := direct) rfl rfl [] ["A.java"] late).2.2 rfl trivial
  · cases escapes with
    | unwritten uses => cases uses
    | unpassed prepared bad =>
      cases prepared
      have passed : (direct.command ++ direct.arguments [] ["A.java"]).findSome? TextFault.of? =
          none := by
        decide
      cases passed.symm.trans bad
    | unended prepared _ obstacle => cases obstacle
    | unread ends known => exact absurd known (by rw [code ends]; decide)
    | unsaid ends long => exact absurd long (by rw [code ends]; decide)
  · exact ⟨_, s', failed, rfl, rfl⟩

def unexecutable : Session := { files := ⟨[], []⟩, endings := [.notExecutable] }

/-- A compiler that is no program is neither a completion nor a fault. -/
theorem exists_compile_refused :
    direct.isClosed = false ∧ direct.messages = {} ∧ direct.successCodes = [0, 1] ∧
      (∃ s', Command.run ["ecj"] none none [] unexecutable =
        .error (.refused ⟨.execFormat, "ecj"⟩) s') ∧
      ∃ s', direct.compile [] ["A.java"] unexecutable =
        .error (.refused ⟨.execFormat, "ecj"⟩) s' := by
  have refused (words : List String) (passed : Command.spoiled? ("ecj" :: words) none [] = none) :
      Command.complete ("ecj" :: words) none unexecutable.nextEnding =
        .error (.refused ⟨.execFormat, "ecj"⟩) := by
    rw [Command.complete_of_not_spoiled passed, Command.ended_of_obstacle rfl]
  have asked := Command.run_eq ["ecj"] none none [] unexecutable
  rw [refused [] (by decide)] at asked
  exact ⟨rfl, rfl, rfl, ⟨_, asked⟩,
    exists_compile_of_complete_error rfl rfl (refused _ (by decide))⟩

end Handle
end PageBuild
