import PageBuild.Session

/-! Commands. The process of a command runs to its end with the variables of the session; one that
cannot be started or whose time is up ends with the code -1 and the reason as its errors. A command
that the operating system cannot be passed, and a time that cannot be waited for, are no process. -/
namespace PageBuild

structure Completion where
  success : Bool
  output : String := ""
  errors : String := ""
  code : Int := 0
  command : List String := []
  deriving DecidableEq, Repr

namespace Completion

def text (c : Completion) : String := Text.strip (c.output ++ "\n" ++ c.errors)

def commandText (c : Completion) : String := Text.join " " c.command

def failed (command : List String) (reason : String) : Completion :=
  { success := false, errors := reason, code := -1, command }

def checkTime (c : Completion) (time : Quantity) : Except Failure Completion :=
  if time.isNegative then .error (.value .negativeTime) else .ok c

/-- What a process wrote, read leniently, without blanks at its ends. -/
def written (bytes : List UInt8) : String := Text.strip (String.ofList (Utf8.decodeLenient bytes))

end Completion

namespace Command

def timeoutText (timeout : Option Quantity) : Except Decimal.Overlong String := do
  let time ← match timeout with
    | none => pure "None"
    | some (.whole n) => Decimal.written n
    | some (.real x) => pure x.text
  return s!"Command timed out after {time}s"

def notFoundText (program : String) : String := s!"Command not found: {program}"

/-- What keeps a command from the operating system: the variables added for it, its words, or its
directory. Names and values are encoded first, and looked through for a NUL after the words. -/
def spoiled? (command : List String) (directory : Option String)
    (added : List (String × String)) : Option ValueFault :=
  let encoded (s : String) : Option ValueFault :=
    (Utf8.unencodable? Text.isByte s.toList).map fun e => .text (.unencodable e)
  let named (s : String) : Option ValueFault :=
    if s.toList.contains '=' then some .variableName else none
  let passed (s : String) : Option ValueFault := (TextFault.of? s).map .text
  (added.findSome? fun (name, value) => (encoded name).or ((named name).or (encoded value))).or
    ((command.findSome? passed).or
      ((added.findSome? fun (name, value) => (passed name).or (passed value)).or
        (directory.bind passed)))

/-- No more milliseconds than this can be waited for. -/
def longestWait : Nat := 2147483647

def unwaitable? : Quantity → Option Failure
  | .whole n => if longestWait < 1000 * n then some .overflow else none
  | .real .nan => some (.value .noNumber)
  | .real (.infinite negative) => if negative then none else some .overflow
  | .real (.finite negative mantissa exponent) =>
    let (num, den) := Binary64.fraction mantissa exponent
    if !negative && longestWait * den < 1000 * num then some .overflow else none

/-- What an ending means for the process of a command. A file that is not there is told from
whatever else the operating system has against it. -/
def ended (command : List String) (timeout : Option Quantity) :
    Ending → Except Failure Completion
  | .exited code output errors =>
    match timeout.bind unwaitable? with
    | some e => .error e
    | none => .ok {
        success := code = 0
        output := Completion.written output
        errors := Completion.written errors
        code, command }
  | .timedOut => do return .failed command (← (timeoutText timeout).mapError .ofNumber)
  | .notStarted => match command with
    | [] => .error .index
    | program :: _ => .ok (.failed command (notFoundText program))
  | .notExecutable errno => match command with
    | [] => .error .index
    | program :: _ =>
      if errno = .noEntry then .ok (.failed command (notFoundText program))
      else .error (.refused ⟨errno, program⟩)
  | .timed time ending => do (← ended command timeout ending).checkTime time

def complete (command : List String) (timeout : Option Quantity) (ending : Ending)
    (directory : Option String := none) (added : List (String × String) := []) :
    Except Failure Completion :=
  match spoiled? command directory added with
  | some e => .error (.value e)
  | none => ended command timeout ending

/-- Starts a process, which is noted in the journal, and takes its ending. -/
def start (launch : Launch) : Action Ending := do
  Session.record (.launched launch)
  match (← get).endings with
  | [] => return .exited 0 [] []
  | ending :: rest =>
    modify fun s => { s with endings := rest }
    return ending

def run (command : List String) (timeout : Option Quantity) (directory : Option String := none)
    (added : List (String × String) := []) : Action Completion := do
  let s ← get
  let environment := added.foldl (fun all (name, value) => Json.put all name value) s.environment
  let ending ← start { command, timeout, directory, environment, files := s.files }
  Session.ofExcept (complete command timeout ending directory added)

end Command
end PageBuild
