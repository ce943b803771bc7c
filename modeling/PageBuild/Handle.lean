import PageBuild.ArgumentFile
import PageBuild.ClassPath
import PageBuild.Messages
import PageBuild.Command
import PageBuild.Transcript.Format

/-! Compiler handles: one configured compiler with a private directory, which is there while the
handle is open. A handle is open at first and is closed once; a closed one takes no locations and
compiles nothing. -/
namespace PageBuild

inductive Location
  | classOutput
  | classPath
  deriving DecidableEq, Repr

namespace Location

def name : Location → String
  | .classOutput => "class_output"
  | .classPath => "class_path"

def ofText (s : String) : Except Failure Location :=
  match [Location.classOutput, .classPath].find? (·.name = s) with
  | some l => .ok l
  | none => .error (.value (.location s))

end Location

structure Caller where
  name : String
  command : List String
  format : Transcript.Format
  encoding : String
  successCodes : List Int := [0, 1]
  /-- The arguments are passed in a file. -/
  usesArgumentFile : Bool := true
  timeout : Option Quantity := none
  messages : Messages := {}
  deriving Repr

structure Handle extends Caller where
  workDir : PathName
  isClosed : Bool := false
  outputs : List PathName := []
  classPath : List PathName := []
  deriving Repr

namespace Handle

def «open» (c : Caller) : Action Handle := do
  let workDir ← Session.makePrivate s!"page_compiler_{c.name}_"
  return { c with workDir }

/-- Closes the handle and deletes its private directory; a closed handle stays as it is. -/
def close (h : Handle) : Action Handle := do
  if h.isClosed then return h
  Session.removeDirectory h.workDir
  return { h with isClosed := true }

def closedFault (h : Handle) : Fault :=
  { kind := .backend
    message := s!"{h.name} compiler handle is closed"
    code := some "HANDLE_CLOSED"
    facts := Fault.ownFacts .backend [] }

def requireOpen (h : Handle) : Action Unit := do
  if h.isClosed then Session.raise h.closedFault

def setLocation (h : Handle) (l : Location) (paths : List PathName) : Action Handle := do
  h.requireOpen
  match l with
  | .classOutput => return { h with outputs := paths }
  | .classPath => return { h with classPath := paths }

def getLocation (h : Handle) : Location → List PathName
  | .classOutput => h.outputs
  | .classPath => h.classPath

def arguments (h : Handle) (options sources : List String) : List String :=
  options ++ ["-encoding", h.encoding] ++
  (match h.outputs with
    | [] => []
    | output :: _ => ["-d", output.text]) ++
  (if h.classPath.isEmpty then [] else ["-classpath", ClassPath.text h.classPath]) ++
  sources

def argumentFile (h : Handle) : PathName := h.workDir.join (.ofText "arguments.txt")

/-- The command that passes arguments; an argument file is written for it. -/
def prepare (h : Handle) (arguments : List String) : Action (List String) := do
  if h.usesArgumentFile then
    let file := h.argumentFile.text
    Session.change (FileTree.writeText file (ArgumentFile.text arguments))
    return h.command ++ ["@" ++ file]
  else return h.command ++ arguments

def fault (h : Handle) (key : MessageKey) (code : String) (c : Completion) (about : String) :
    Except Failure (List Diagnostic) := do
  let message ← h.messages.say key [.int c.code, .text about]
  throw (.fault {
    kind := .backend, message, code := some code
    facts := [
      ("command", .texts c.command), ("return_code", .int c.code), ("stderr", .text c.errors)] })

/-- The diagnostics of a completed compiler. It is a fault if the code is none that the compiler
ends with, if an error belongs to no file, or if the code tells of an error that is not there. -/
def judge (h : Handle) (c : Completion) : Except Failure (List Diagnostic) :=
  if !h.successCodes.contains c.code then h.fault .backendFault "BACKEND_FAULT" c c.text
  else match Transcript.parse h.format c.text with
    | .error e => .error (.value (.numeral e))
    | .ok diagnostics =>
      let stray := diagnostics.filter fun d => d.isError && d.source.isNone
      if !stray.isEmpty then
        h.fault .backendFault "INVALID_COMMAND_LINE" c (Text.join "; " (stray.map (·.message)))
      else if c.code ≠ 0 && !diagnostics.any (·.isError) then
        h.fault .unparsedFailure "UNPARSED_FAILURE" c c.text
      else .ok diagnostics

def compile (h : Handle) (options sources : List String) : Action (List Diagnostic) := do
  h.requireOpen
  let command ← h.prepare (h.arguments options sources)
  let completion ← Command.run command h.timeout
  Session.ofExcept (h.judge completion)

end Handle
end PageBuild
