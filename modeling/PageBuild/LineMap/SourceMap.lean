import PageBuild.LineMap

/-! Reading source maps. Three lines of header are followed by the stratum, the files it names, two
lines each, and its sections, one a line. A section that names no file belongs to the file named
last, and a count or an increment that is left out is one. -/
namespace PageBuild

structure SourceFile where
  id : Int
  name : String
  path : String
  deriving DecidableEq, Repr

/-- The file of a template: its base name, and its path without leading slashes. -/
def SourceFile.ofPath (id : Int) (path : String) : SourceFile :=
  ⟨id, (PathName.ofText path).name, String.ofList (path.toList.dropWhile (· = '/'))⟩

structure SourceMap where
  /-- The generated file. -/
  generated : String
  /-- The stratum that tools show unless they are told another one. -/
  defaultStratum : String
  stratum : String
  files : List SourceFile
  sections : List LineEntry
  deriving DecidableEq, Repr

namespace SourceMap

def number? (s : List Char) : Option (Nat × List Char) :=
  let digits := s.takeWhile Char.isDigit
  if digits.isEmpty then none
  else some (Nat.ofDigitChars 10 digits 0, s.dropWhile Char.isDigit)

def signed? : List Char → Option (Int × List Char)
  | '-' :: s => (number? s).map fun (n, rest) => (-n, rest)
  | s => (number? s).map fun (n, rest) => (n, rest)

def marked? (mark : Char) : List Char → Option (Option Nat × List Char)
  | [] => some (none, [])
  | c :: s =>
    if c = mark then (number? s).map fun (n, rest) => (some n, rest) else some (none, c :: s)

/-- The section of a line, `start\x23file,count:start,increment`, after a section of the given
file. -/
def section? (file : Nat) (line : List Char) : Option LineEntry := do
  let (inputStart, s) ← number? line
  let (file?, s) ← marked? '#' s
  let (count?, s) ← marked? ',' s
  let s ← Text.after? [':'] s
  let (outputStart, s) ← number? s
  let (increment?, s) ← marked? ',' s
  if h : s = [] ∧ 1 ≤ inputStart ∧ 1 ≤ outputStart ∧ 1 ≤ count?.getD 1 then
    return {
      inputStart, outputStart
      inputCount := count?.getD 1
      increment := increment?.getD 1
      fileId := file?.getD file
      one_le_inputStart := h.2.1
      one_le_outputStart := h.2.2.1
      one_le_inputCount := h.2.2.2 }
  else none

def sections? (file : Nat) : List (List Char) → Option (List LineEntry)
  | [] => none
  | line :: rest =>
    if line = ['*', 'E'] then some []
    else do
      let e ← section? file line
      return e :: (← sections? e.fileId rest)

def fileName? (line : List Char) : Option (Int × List Char) := do
  let s ← Text.after? ['+', ' '] line
  let (id, s) ← signed? s
  return (id, ← Text.after? [' '] s)

/-- The files up to the line that opens the sections, and what follows that line. The line after a
name is a path, whatever it looks like. -/
def files? : List (List Char) → Option (List SourceFile × List (List Char))
  | [] => none
  | [line] => if line = ['*', 'L'] then some ([], []) else none
  | line :: path :: rest =>
    if line = ['*', 'L'] then some ([], path :: rest)
    else do
      let (id, name) ← fileName? line
      let (files, rest) ← files? rest
      return (⟨id, String.ofList name, String.ofList path⟩ :: files, rest)

def ofLines? : List (List Char) → Option SourceMap
  | header :: generated :: defaultStratum :: opening :: table :: rest => do
    if header = "SMAP".toList ∧ table = "*F".toList then
      let stratum ← Text.after? "*S ".toList opening
      let (files, rest) ← files? rest
      let sections ← sections? 0 rest
      return {
        generated := String.ofList generated
        defaultStratum := String.ofList defaultStratum
        stratum := String.ofList stratum
        files, sections }
    else none
  | _ => none

/-- Reads a source map; lines end with a line feed, a carriage return, or both. -/
def read (s : String) : Option SourceMap :=
  ofLines? (Text.splitOn '\n' (Text.unifyLineEnds s.toList))

end SourceMap
end PageBuild
