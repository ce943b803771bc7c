import PageBuild.CommandLine.Flag
import PageBuild.Text.Digit

/-! The words of a command line. A word is an argument, a use of a flag, or the break after which
all words are arguments. A long flag may be cut short as long as one flag is meant, and a value may
stand behind an equals sign; a short flag may be followed by others in the same word. -/
namespace PageBuild.CommandLine

/-- The rest of a flag's word: what follows the spelling, and whether an equals sign stands
between. -/
structure Tail where
  explicit : Bool
  text : List Char
  deriving DecidableEq, Repr

structure Use where
  flag : Flag
  spelling : String
  tail : Option Tail := none
  deriving DecidableEq, Repr

inductive Mark
  | argument
  | flag (use : Use)
  | unknown
  | break
  deriving DecidableEq, Repr

structure Word where
  text : String
  mark : Mark
  deriving DecidableEq, Repr

namespace Word

def splitEquals (word : List Char) : List Char × Option Tail :=
  let before := word.takeWhile (· ≠ '=')
  match word.drop before.length with
  | [] => (before, none)
  | _ :: value => (before, some ⟨true, value⟩)

/-- A negative number, with or without places; one line end may follow it. -/
def isNegativeNumber : List Char → Bool
  | '-' :: rest =>
    let rest := if rest.getLast? = some '\n' then rest.dropLast else rest
    let whole := rest.takeWhile Text.isDigit
    match rest.drop whole.length with
    | [] => !whole.isEmpty
    | '.' :: places => !places.isEmpty && places.all Text.isDigit
    | _ => false
  | _ => false

/-- The uses of flags that a word may be short for. -/
def candidates (word : List Char) : List Use :=
  match word with
  | '-' :: '-' :: _ =>
    let (before, tail) := splitEquals word
    (Flag.table.filter fun (spelling, _) => before.isPrefixOf spelling.toList).map
      fun (spelling, flag) => { flag, spelling, tail }
  | '-' :: c :: rest =>
    (Flag.table.filter fun (spelling, _) => spelling.toList = ['-', c]).map
      fun (spelling, flag) => { flag, spelling, tail := some ⟨false, rest⟩ }
  | _ => []

def writtenOut? (word : List Char) : Option Use :=
  match Flag.ofSpelling? (String.ofList word) with
  | some flag => some { flag, spelling := String.ofList word }
  | none =>
    let (before, tail) := splitEquals word
    match Flag.ofSpelling? (String.ofList before), tail with
    | some flag, some tail => some { flag, spelling := String.ofList before, tail := some tail }
    | _, _ => none

def markOf (word : String) : Except Stop Mark :=
  match word.toList with
  | [] | ['-'] => .ok .argument
  | '-' :: _ =>
    match writtenOut? word.toList with
    | some use => .ok (.flag use)
    | none => match candidates word.toList with
      | [use] => .ok (.flag use)
      | [] =>
        if isNegativeNumber word.toList || word.toList.contains ' ' then .ok .argument
        else .ok .unknown
      | several =>
        let matching := Text.join ", " (several.map (·.spelling))
        .error (.usage s!"ambiguous option: {word} could match {matching}")
  | _ => .ok .argument

/-- The words of a command line, up to the first that may mean more than one flag. -/
def ofTexts : List String → Except Stop (List Word)
  | [] => .ok []
  | "--" :: rest => .ok (⟨"--", .break⟩ :: rest.map (⟨·, .argument⟩))
  | word :: rest => do
    let mark ← markOf word
    return ⟨word, mark⟩ :: (← ofTexts rest)

end Word
end PageBuild.CommandLine
