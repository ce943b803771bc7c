import PageBuild.Transcript.Ecj.Pattern
import PageBuild.Transcript.Format
import PageBuild.Transcript.Javac.Printer

/-! How the Eclipse compiler prints. A transcript is a list of problems. A problem is a header, the
echo of a source line with its caret line, and a message; a separator may follow it, and one may
come before the first. Behind a last separator there may be any text without a header. Line numbers
and caret lines are those of every compiler. -/
namespace PageBuild.Transcript.Ecj

open Javac (Caret LineNumber)

/-- The file of a problem, which may look like the end of a header. -/
structure File where
  text : List Char
  ne_nil : text ≠ []
  unbroken : Text.Unbroken text

/-- A line that can be echoed: body, and no caret line. -/
structure PlainLine where
  text : List Char
  unbroken : Text.Unbroken text
  ordinary : IsOrdinary (Text.trimRight Text.isBlank text)
  not_caret : ¬ IsCaretLine text

/-- A line of a message, which says something. -/
structure MessageLine extends PlainLine where
  not_blank : Text.trim Text.isBlank text ≠ []

structure Problem where
  number : List Char
  numeral : IsNumeral number
  severity : Severity
  file : File
  line : LineNumber
  echo : Option (PlainLine × Caret) := none
  message : List MessageLine

namespace Problem

def header (p : Problem) : List Char :=
  Ecj.header p.number p.severity p.file.text p.line.digits

def body (p : Problem) : List (List Char) :=
  (match p.echo with
    | none => []
    | some (source, caret) => [source.text, caret.text]) ++
    p.message.map (·.text)

def column (p : Problem) : Option Nat := p.echo.map fun (_, caret) => caret.column

def details (p : Problem) : List (List Char) :=
  p.message.map fun line => Text.trim Text.isBlank line.text

def diagnostic (p : Problem) : Diagnostic where
  kind := p.severity.kind
  message := String.ofList (List.intercalate ['\n'] p.details)
  source := some (String.ofList p.file.text)
  line := some (Text.natOfDigits p.line.digits)
  column := p.column.map Int.ofNat

end Problem

/-- A problem, and the separator after it as the dashes that it has beyond ten. -/
structure Printed where
  problem : Problem
  closing : Option Nat := none

def Printed.lines (p : Printed) : List (List Char) :=
  p.problem.header :: (p.problem.body ++ p.closing.toList.map separator)

/-- A text in which no line is a header. -/
structure Rest where
  text : List Char
  not_header : ∀ line ∈ linesOf text, ¬ IsHeader line

structure Printout where
  opening : Option Nat := none
  problems : List Printed
  /-- A last separator, and what comes after it. -/
  rest : Option (Nat × Rest) := none

namespace Printout

def lines (x : Printout) : List (List Char) :=
  x.opening.toList.map separator ++ x.problems.flatMap Printed.lines ++
    x.rest.toList.map fun (more, _) => separator more

def transcript (x : Printout) : String :=
  String.ofList (x.lines.flatMap (· ++ ['\n']) ++ (x.rest.map fun (_, rest) => rest.text).getD [])

end Printout

example :
    Printout.transcript {
      opening := some 0
      problems := [{
        problem := {
          number := ['1'], numeral := by decide, severity := .error
          file := ⟨"A.java (at line 3)".toList, by decide, by decide⟩
          line := .ofNat 5 (by decide)
          echo := some (⟨"int x".toList, by decide, by decide, by decide⟩,
            ⟨[' ', ' '], 1, [], by simp; decide, by simp, by decide⟩)
          message := [{
            text := "x is unused".toList, unbroken := by decide, ordinary := by decide
            not_caret := by decide, not_blank := by decide }] } }]
      rest := some (0, ⟨"1 problem".toList, by decide⟩) } =
      "----------\n1. ERROR in A.java (at line 3) (at line 5)\nint x\n  ^^\nx is unused\n" ++
        "----------\n1 problem" := by
  decide

end PageBuild.Transcript.Ecj
