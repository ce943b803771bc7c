import PageBuild.Json
import PageBuild.Text.Quoted

/-! JSON text. All of it is ASCII: other characters are written as escapes of UTF-16 units. The
layout is one line, or one item a line with an indent. -/
namespace PageBuild.Json

def unitEscape (unit : Nat) : List Char := ['\\', 'u'] ++ Text.hexDigits 4 unit

def escapeChar (c : Char) : List Char :=
  let n := Text.codePoint c
  if c = '"' || c = '\\' then ['\\', c]
  else if c = '\n' then ['\\', 'n']
  else if c = '\r' then ['\\', 'r']
  else if c = '\t' then ['\\', 't']
  else if n = 8 then ['\\', 'b']
  else if n = 12 then ['\\', 'f']
  else if 0x20 ≤ n && n < 0x7F then [c]
  else if n < 0x10000 then unitEscape n
  else unitEscape (0xD800 + (n - 0x10000) / 0x400) ++ unitEscape (0xDC00 + (n - 0x10000) % 0x400)

def quote (s : String) : List Char := '"' :: s.toList.flatMap escapeChar ++ ['"']

def floatText : Binary64 → String
  | .nan => "NaN"
  | .infinite negative => if negative then "-Infinity" else "Infinity"
  | x => x.text

/-- The text between the items of a container, and at its two ends: one line without an indent,
else a new line at the given depth. -/
def breakAt (indent? : Option Nat) (depth : Nat) : List Char :=
  match indent? with
  | none => []
  | some width => '\n' :: List.replicate (width * depth) ' '

def comma (indent? : Option Nat) (depth : Nat) : List Char :=
  match indent? with
  | none => [',', ' ']
  | some _ => ',' :: breakAt indent? depth

mutual

def layout (indent? : Option Nat) (depth : Nat) : Json → List Char
  | .null => "null".toList
  | .bool b => if b then "true".toList else "false".toList
  | .int n => Decimal.ofInt n
  | .float x => (floatText x).toList
  | .str s => quote s
  | .arr [] => ['[', ']']
  | .arr (item :: rest) =>
    '[' :: breakAt indent? (depth + 1) ++ layout indent? (depth + 1) item ++
      layoutItems indent? (depth + 1) rest ++ breakAt indent? depth ++ [']']
  | .obj [] => ['{', '}']
  | .obj ((name, value) :: rest) =>
    '{' :: breakAt indent? (depth + 1) ++ quote name ++ [':', ' '] ++
      layout indent? (depth + 1) value ++ layoutMembers indent? (depth + 1) rest ++
      breakAt indent? depth ++ ['}']

def layoutItems (indent? : Option Nat) (depth : Nat) : List Json → List Char
  | [] => []
  | item :: rest =>
    comma indent? depth ++ layout indent? depth item ++ layoutItems indent? depth rest

def layoutMembers (indent? : Option Nat) (depth : Nat) : List (String × Json) → List Char
  | [] => []
  | (name, value) :: rest =>
    comma indent? depth ++ quote name ++ [':', ' '] ++ layout indent? depth value ++
      layoutMembers indent? depth rest

end

def compact (j : Json) : String := String.ofList (layout none 0 j)

def pretty (j : Json) : String := String.ofList (layout (some 2) 0 j)

end PageBuild.Json
