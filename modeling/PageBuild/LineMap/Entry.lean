import PageBuild.Schema

/-! One section of a line map: consecutive template lines and the generated lines that they became.
Lines are counted from one. Every template line became `increment` generated lines; with an
increment of zero the section is a single generated line. -/
namespace PageBuild

structure LineEntry where
  inputStart : Nat
  outputStart : Nat
  inputCount : Nat := 1
  increment : Nat := 1
  fileId : Nat := 0
  one_le_inputStart : 1 ≤ inputStart
  one_le_outputStart : 1 ≤ outputStart
  one_le_inputCount : 1 ≤ inputCount := by decide
  deriving DecidableEq, Repr

namespace LineEntry

/-- The first generated line after the section. -/
def outputEnd (e : LineEntry) : Nat :=
  if e.increment = 0 then e.outputStart + 1 else e.outputStart + e.inputCount * e.increment

def resolve (e : LineEntry) (line : Int) : Option Nat :=
  if e.outputStart ≤ line ∧ line < e.outputEnd then
    if e.increment = 0 then some e.inputStart
    else some (e.inputStart + (line.toNat - e.outputStart) / e.increment)
  else none

def numbers (e : LineEntry) : List Int :=
  [(e.inputStart : Int), e.inputCount, e.outputStart, e.increment, e.fileId]

def marked (mark : Char) : Option Nat → Except Decimal.Overlong String
  | none => return ""
  | some n => return mark.toString ++ (← Decimal.written n)

/-- The section as a line of a source map. The file is left out where it is that of the section
before, and so are a count and an increment of one. -/
def smap (e : LineEntry) (previous? : Option Int) : Except Decimal.Overlong String := do
  let input ← Decimal.written e.inputStart
  let file ← marked '#' (if previous? = some (e.fileId : Int) then none else some e.fileId)
  let count ← marked ',' (if e.inputCount = 1 then none else some e.inputCount)
  let output ← Decimal.written e.outputStart
  let increment ← marked ',' (if e.increment = 1 then none else some e.increment)
  return s!"{input}{file}{count}:{output}{increment}"

def model : String := "LineMapEntry"

def fields : List (Schema.Field LineEntry) := [
  { name := "input_start_line", required := true, store := fun j e => do
      let ⟨n, h⟩ ← Schema.atLeast 1 j
      return { e with inputStart := n, one_le_inputStart := h } },
  { name := "output_start_line", required := true, store := fun j e => do
      let ⟨n, h⟩ ← Schema.atLeast 1 j
      return { e with outputStart := n, one_le_outputStart := h } },
  { name := "input_line_count", store := fun j e => do
      let ⟨n, h⟩ ← Schema.atLeast 1 j
      return { e with inputCount := n, one_le_inputCount := h } },
  { name := "output_line_increment", store := fun j e => do
      return { e with increment := (← Schema.atLeast 0 j).val } },
  { name := "file_id", store := fun j e => do
      return { e with fileId := (← Schema.atLeast 0 j).val } }]

def blank : LineEntry :=
  { inputStart := 1, outputStart := 1, one_le_inputStart := by decide,
    one_le_outputStart := by decide }

def check : Json → Schema.Check LineEntry := Schema.record model fields blank

end LineEntry
end PageBuild
