import PageBuild.Diagnostic
import PageBuild.Text.Digit
import PageBuild.Text.Lines

/-! Transcripts: what a compiler prints. Every line has a role of its own, settled without its
neighbours: it opens a block, is a diagnostic by itself, closes the open block, or is body. The
body lines after an opening line belong to its block, up to the next line of another role; body
lines outside a block are dropped. The transcript is read in one pass with at most one block
open. -/
namespace PageBuild.Transcript

structure Heading where
  kind : Kind
  source : Option String := none
  line : Option Nat := none
  /-- The first lines of the message. -/
  lead : List (List Char) := []
  deriving DecidableEq, Repr

inductive Role
  | opens (heading : Heading)
  | alone (d : Diagnostic)
  | closes
  | body
  deriving DecidableEq, Repr

def isCaret (line : List Char) : Bool :=
  let marks := Text.trim Text.isBlank line
  !marks.isEmpty && marks.all (· = '^')

/-- The column that a caret line points at, counted from one. -/
def caretColumn (line : List Char) : Nat := (line.takeWhile (· ≠ '^')).length + 1

/-- The lines after a line that is kept back: it is left out if a caret line follows. -/
def dropEchoAfter (held : List Char) : List (List Char) → List (List Char) × Option Nat
  | [] => ([held], none)
  | line :: rest =>
    if isCaret line then (rest, some (caretColumn line))
    else
      let (kept, column) := dropEchoAfter line rest
      (held :: kept, column)

/-- A block's body without its first caret line and the echoed source line before that, and the
column of the caret. -/
def dropEcho : List (List Char) → List (List Char) × Option Nat
  | [] => ([], none)
  | line :: rest =>
    if isCaret line then (rest, some (caretColumn line)) else dropEchoAfter line rest

def details (body : List (List Char)) : List (List Char) :=
  (body.map (Text.trim Text.isBlank)).filter (· ≠ [])

def Heading.diagnostic (heading : Heading) (body : List (List Char)) : Diagnostic :=
  let (kept, column) := dropEcho body
  { kind := heading.kind
    message := String.ofList (List.intercalate ['\n'] (heading.lead ++ details kept))
    source := heading.source
    line := heading.line.map Int.ofNat
    column := column.map Int.ofNat }

structure Reading where
  done : List Diagnostic := []
  opened : Option (Heading × List (List Char)) := none

def Reading.close (r : Reading) : Reading :=
  match r.opened with
  | none => r
  | some (heading, body) => { done := r.done ++ [heading.diagnostic body] }

def Reading.step (r : Reading) : List Char × Role → Reading
  | (_, .opens heading) => { r.close with opened := some (heading, []) }
  | (_, .alone d) => { done := r.close.done ++ [d] }
  | (_, .closes) => r.close
  | (line, .body) =>
    match r.opened with
    | none => r
    | some (heading, body) => { r with opened := some (heading, body ++ [line]) }

/-- The diagnostics of lines whose roles are settled. -/
def collect (lines : List (List Char × Role)) : List Diagnostic :=
  (lines.foldl Reading.step {}).close.done

def linesOf (s : List Char) : List (List Char) :=
  (Text.lines s).map (Text.trimRight Text.isBlank)

/-- The digits at the front that are followed by the given words, and what follows those. -/
def numbered? (words : List Char) (s : List Char) : Option (List Char × List Char) :=
  let digits := s.takeWhile Text.isDigit
  if digits.isEmpty then none
  else (Text.after? words (s.drop digits.length)).map (digits, ·)

end PageBuild.Transcript
