import PageBuild.Text.Printable
import PageBuild.Text.Surrogate

/-! Quoted text: how a string or a path is shown inside a message. The quotes are single, unless
the text holds single quotes and no double ones. -/
namespace PageBuild.Text

def hexDigits : (width : Nat) → Nat → List Char
  | 0, _ => []
  | width + 1, n => hexDigits width (n / 16) ++ [Nat.digitChar (n % 16)]

/-- The numeric escape of a character, in its shortest form of two, four or eight digits. -/
def numericEscape (c : Char) : List Char :=
  let n := codePoint c
  if n < 0x100 then ['\\', 'x'] ++ hexDigits 2 n
  else if n < 0x10000 then ['\\', 'u'] ++ hexDigits 4 n
  else ['\\', 'U'] ++ hexDigits 8 n

def quoteChar (quote c : Char) : List Char :=
  if c = quote || c = '\\' then ['\\', c]
  else if c = '\n' then ['\\', 'n']
  else if c = '\r' then ['\\', 'r']
  else if c = '\t' then ['\\', 't']
  else if isPrintable c then [c]
  else numericEscape c

def quoteFor (s : List Char) : Char :=
  if s.contains '\'' && !s.contains '"' then '"' else '\''

def quoted (s : String) : String :=
  let q := quoteFor s.toList
  String.ofList (q :: s.toList.flatMap (quoteChar q) ++ [q])

def asciiOnly (s : String) : String :=
  String.ofList (s.toList.flatMap fun c => if c.toNat < 0x80 then [c] else numericEscape c)

example : quoted "it's" = "\"it's\"" := by decide
example : quoted "a'b\"c\n" = "'a\\'b\"c\\n'" := by decide

end PageBuild.Text
