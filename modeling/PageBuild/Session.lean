import PageBuild.Failure
import PageBuild.Number.Quantity

/-! Sessions: the state that a build works on. A session holds the files, the variables of the
environment, how the next processes will end, and a journal of what was done. Operations on it go
on from whatever state a failed one left behind. -/
namespace PageBuild

/-- How a process ends: it exits, its time is up, it cannot be started, or the operating system
refuses to execute the file for some other reason. -/
inductive Ending
  | exited (code : Int) (output errors : List UInt8)
  | timedOut
  | notStarted
  | notExecutable (errno : Errno := .execFormat)
  /-- It ends in some way after a time by the clock, which may have been set back. -/
  | timed (time : Quantity) (ending : Ending)
  deriving DecidableEq, Repr

/-- A process as it was started, with the files and the variables it saw. -/
structure Launch where
  command : List String
  timeout : Option Quantity
  directory : Option String := none
  environment : List (String × String)
  files : FileTree
  deriving DecidableEq, Repr

inductive Stage
  | acquire
  | options
  | classOutput
  | classPath
  | compile
  | close
  | delete
  | report
  | install
  deriving DecidableEq, Repr

inductive Level
  | debug
  | info
  | warning
  | error
  deriving DecidableEq, Repr

def Level.name : Level → String
  | .debug => "DEBUG"
  | .info => "INFO"
  | .warning => "WARNING"
  | .error => "ERROR"

inductive Event
  | logged (level : Level) (text : String)
  | launched (launch : Launch)
  | entered (stage : Stage)
  /-- The log goes to the standard error stream from here on, down to a level. -/
  | redirected (level : Level)
  /-- Line maps were handed to a collaborator that counts them. -/
  | counted (maps : Option Nat)
  deriving DecidableEq, Repr

structure Session where
  files : FileTree
  environment : List (String × String) := []
  /-- How the next processes end; where none is left, they exit without output. -/
  endings : List Ending := []
  journal : List Event := []
  /-- The batches of errors that were reported. -/
  batches : List (List ErrorDetail) := []
  /-- The private directories that were made. -/
  privates : List PathName := []
  deriving DecidableEq, Repr

abbrev Action := EStateM Failure Session

namespace Session

def record (e : Event) : Action Unit := modify fun s => { s with journal := s.journal ++ [e] }

def log (level : Level) (text : String) : Action Unit := record (.logged level text)

/-- Fails with a fault, which is logged if its kind is. -/
def raise {α : Type} (f : Fault) : Action α := do
  if f.kind.isLogged then log .error f.logText
  throw (.fault f)

/-- The outcome of a computation that leaves the session alone; a fault is logged if its kind is. -/
def ofExcept {α : Type} : Except Failure α → Action α
  | .ok a => pure a
  | .error (.fault f) => raise f
  | .error e => throw e

def change {α : Type} (c : FileTree.Change α) : Action α := fun s =>
  match c s.files with
  | .ok a files => .ok a { s with files }
  | .error e files => .error (.ofPath e) { s with files }

def attempt (c : FileTree.Change Unit) : Action (Except OsError Unit) := fun s =>
  match c s.files with
  | .ok _ files => .ok (.ok ()) { s with files }
  | .error (.os e) files => .ok (.error e) { s with files }
  | .error (.text e) files => .error (.value (.text e)) { s with files }

def ask {α : Type} (question : FileTree → Except OsError α) : Action α := do
  match question (← get).files with
  | .ok a => return a
  | .error e => throw (.refused e)

def environment? (s : Session) (name : String) : Option String := Json.find? s.environment name

def scratchRoot : PathName := .ofText "/tmp"

/-- Eight digits that make a name different from all earlier ones. -/
def distinct (n : Nat) : String :=
  let digits := Decimal.text n
  String.ofList (List.replicate (8 - digits.length) '0') ++ digits

def makePrivate (start : String) : Action PathName := do
  let n := (← get).privates.length
  let p := scratchRoot.join (.ofText (start ++ distinct (n + 1)))
  change (FileTree.makeDirectory p.text)
  modify fun s => { s with privates := s.privates ++ [p] }
  return p

def removeDirectory (p : PathName) : Action Unit := do
  if ← ask (·.exists? p.text) then modify fun s => { s with files := s.files.removeTree p }

end Session
end PageBuild
