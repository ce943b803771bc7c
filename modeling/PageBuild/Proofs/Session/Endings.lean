import PageBuild.Proofs.Session.Views

/-! How processes end. A compilation takes an ending where it runs its command, and nowhere before
that; so the command of a compilation ends as the session said from the start. -/
namespace PageBuild

open Session

/-- The process exits after it has written these bytes, and the clock was not set back. -/
def Ending.Exits (output errors : List UInt8) : Ending → Prop
  | .exited _ output' errors' => output' = output ∧ errors' = errors
  | .timed time ending => time.isNegative = false ∧ ending.Exits output errors
  | _ => False

namespace Session

def nextEnding (s : Session) : Ending := s.endings.head?.getD (.exited 0 [] [])

theorem steady_nextEnding : Steady nextEnding :=
  ⟨fun _ _ => rfl, fun _ _ => rfl, fun _ _ _ => rfl⟩

def started (s : Session) (launch : Launch) : Session :=
  { s with journal := s.journal ++ [.launched launch], endings := s.endings.tail }

end Session

namespace Command

theorem start_eq (launch : Launch) (s : Session) :
    start launch s = .ok s.nextEnding (s.started launch) := by
  obtain ⟨files, environment, endings, journal, batches, privates⟩ := s
  cases endings <;> rfl

/-- A command is started once, in the session as it is, and ends as the session says. -/
theorem run_eq (command : List String) (timeout : Option Quantity) (directory : Option String)
    (added : List (String × String)) (s : Session) :
    run command timeout directory added s =
      ofExcept (complete command timeout s.nextEnding directory added) (s.started {
        command, timeout, directory, files := s.files
        environment := added.foldl (fun all (name, value) => Json.put all name value)
          s.environment }) := by
  have asked : run command timeout directory added s = (start _ >>= fun ending =>
      Session.ofExcept (complete command timeout ending directory added)) s := bind_of_ok rfl
  exact asked.trans (bind_of_ok (start_eq _ s))

variable {command : List String} {timeout : Option Quantity} {directory : Option String}
  {added : List (String × String)} {ending : Ending}

theorem complete_of_spoiled {e : ValueFault} (spoiled : spoiled? command directory added = some e) :
    complete command timeout ending directory added = .error (.value e) := by
  rw [complete, spoiled]

theorem complete_of_not_spoiled (passed : spoiled? command directory added = none) :
    complete command timeout ending directory added = ended command timeout ending := by
  rw [complete, passed]

theorem complete_eq_ok_iff {c : Completion} :
    complete command timeout ending directory added = .ok c ↔
      spoiled? command directory added = none ∧ ended command timeout ending = .ok c := by
  unfold complete
  split <;> simp [*]

/-- A command can be passed to the operating system, with its directory and the variables that are
added for it. -/
structure IsPassable (command : List String) (directory : Option String)
    (added : List (String × String)) : Prop where
  words : ∀ word ∈ command, TextFault.of? word = none
  directory : ∀ path ∈ directory, TextFault.of? path = none
  added : ∀ v ∈ added, TextFault.of? v.1 = none ∧ '=' ∉ v.1.toList ∧ TextFault.of? v.2 = none

theorem spoiled?_eq_none_iff :
    spoiled? command directory added = none ↔ IsPassable command directory added := by
  have encoded {s : String} (passed : TextFault.of? s = none) :
      Utf8.unencodable? Text.isByte s.toList = none :=
    Utf8.unencodable?_eq_none_iff.mpr fun c member =>
      (TextFault.of?_eq_none_iff.mp passed c member).1
  simp only [spoiled?, Option.or_eq_none_iff, List.findSome?_eq_none_iff, Option.map_eq_none_iff,
    Option.bind_eq_none_iff, ite_eq_right_iff, reduceCtorEq, imp_false, List.contains_iff_mem]
  constructor
  · rintro ⟨first, words, last, directory⟩
    exact ⟨words, directory, fun v member =>
      ⟨(last v member).1, (first v member).2.1, (last v member).2⟩⟩
  · intro passable
    refine ⟨fun v member => ?_, passable.words, fun v member => ?_, passable.directory⟩
    · obtain ⟨name, mark, value⟩ := passable.added v member
      exact ⟨encoded name, mark, encoded value⟩
    · obtain ⟨name, -, value⟩ := passable.added v member
      exact ⟨name, value⟩

/-- Every word of a command that has ended was passed to the operating system. -/
theorem of?_of_complete {c : Completion} {word : String}
    (completed : complete command timeout ending directory added = .ok c)
    (member : word ∈ command) : TextFault.of? word = none :=
  (spoiled?_eq_none_iff.mp (complete_eq_ok_iff.mp completed).1).words word member

theorem ended_exited_eq_ok_iff {code : Int} {output errors : List UInt8} {c : Completion} :
    ended command timeout (.exited code output errors) = .ok c ↔
      timeout.bind unwaitable? = none ∧ c = {
        success := code = 0
        output := Completion.written output
        errors := Completion.written errors
        code, command } := by
  unfold ended
  split <;> simp [*, eq_comm]

theorem checkTime_eq_ok_iff {c c' : Completion} {time : Quantity} :
    c.checkTime time = .ok c' ↔ time.isNegative = false ∧ c = c' := by
  unfold Completion.checkTime
  split <;> simp [*]

/-- A process that exits is a completion exactly if its time could be waited for. -/
theorem exists_ended_iff {output errors : List UInt8} (exits : ending.Exits output errors) :
    (∃ c, ended command timeout ending = .ok c) ↔ timeout.bind unwaitable? = none := by
  induction ending with
  | exited code output' errors' =>
    simp only [ended_exited_eq_ok_iff, exists_and_left, exists_eq, and_true]
  | timed time ending ih =>
    rw [← ih exits.2]
    simp only [ended, Except.bind_eq_ok_iff, checkTime_eq_ok_iff, exits.1, true_and]
    exact ⟨fun ⟨_, c, done, _⟩ => ⟨c, done⟩, fun ⟨c, done⟩ => ⟨c, c, done, rfl⟩⟩
  | _ => exact exits.elim

/-- The completion of a process that exits holds what it has written. -/
theorem written_of_ended {output errors : List UInt8} {c : Completion}
    (exits : ending.Exits output errors) (done : ended command timeout ending = .ok c) :
    c.output = Completion.written output ∧ c.errors = Completion.written errors := by
  induction ending generalizing c with
  | exited code output' errors' =>
    obtain ⟨rfl, rfl⟩ := exits
    rw [(ended_exited_eq_ok_iff.mp done).2]
    exact ⟨rfl, rfl⟩
  | timed time ending ih =>
    obtain ⟨c', done, checked⟩ := Except.bind_eq_ok_iff.mp done
    exact (checkTime_eq_ok_iff.mp checked).2 ▸ ih exits.2 done
  | _ => exact exits.elim

variable {s s' : Session} {c : Completion} {output errors : List UInt8}

/-- A command whose process exits returns exactly if it could be passed on and waited for. -/
theorem exists_run_iff_of_exits (exits : s.nextEnding.Exits output errors) :
    (∃ c s', run command timeout directory added s = .ok c s') ↔
      IsPassable command directory added ∧ timeout.bind unwaitable? = none := by
  rw [run_eq, ← spoiled?_eq_none_iff, ← exists_ended_iff exits]
  simp only [ofExcept_eq_ok_iff, complete_eq_ok_iff]
  exact ⟨fun ⟨c, _, ⟨passed, done⟩, _⟩ => ⟨passed, c, done⟩,
    fun ⟨passed, c, done⟩ => ⟨c, _, ⟨passed, done⟩, rfl⟩⟩

theorem written_of_run (exits : s.nextEnding.Exits output errors)
    (hrun : run command timeout directory added s = .ok c s') :
    c.output = Completion.written output ∧ c.errors = Completion.written errors := by
  rw [run_eq] at hrun
  exact written_of_ended exits (complete_eq_ok_iff.mp (ofExcept_eq_ok_iff.mp hrun).1).2

/-- A command ends as the session says. -/
theorem run_eq_ok {completion : Completion}
    (hrun : run command timeout none [] s = .ok completion s') :
    complete command timeout s.nextEnding = .ok completion := by
  rw [run_eq] at hrun
  exact (ofExcept_eq_ok_iff.mp hrun).1

end Command
end PageBuild
