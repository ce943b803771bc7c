import PageBuild.ArgumentFile

/-! The reader of argument files that compilers have. Blanks and line breaks separate tokens, and a
number sign in a token's place opens a comment up to the line break. Quotes of either sort may open
anywhere in a token; inside them blanks are kept and a backslash escapes, but a line break that is
not escaped ends the token all the same. -/
namespace PageBuild.ArgumentFile

def isLineBreak (c : Char) : Bool := c = '\n' || c = '\r'

def isSeparator (c : Char) : Bool := c = ' ' || c = '\t' || c = '\x0c' || isLineBreak c

def unescape (c : Char) : Char :=
  if c = 'n' then '\n'
  else if c = 't' then '\t'
  else if c = 'r' then '\r'
  else if c = 'f' then '\x0c'
  else c

/-- What is being read: nothing, a comment, or a token after its first characters. Inside a token a
quote may be open, and there a backslash may be waiting for its character or a line break that it
escaped may be passed over. -/
inductive Reading
  | between
  | comment
  | token (read : List Char) (quote? : Option Char)
  | escape (read : List Char) (quote : Char)
  | continued (read : List Char) (quote : Char)
  deriving DecidableEq, Repr

namespace Reading

def bare (read : List Char) (c : Char) : Reading × Option (List Char) :=
  if isSeparator c then (between, some read)
  else if c = '"' || c = '\'' then (token read (some c), none)
  else (token (read ++ [c]) none, none)

def quoted (read : List Char) (quote c : Char) : Reading × Option (List Char) :=
  if isLineBreak c then (between, some read)
  else if c = '\\' then (escape read quote, none)
  else if c = quote then (token read none, none)
  else (token (read ++ [c]) (some quote), none)

/-- Reads one character; a token that it ends is handed out. -/
def step : Reading → Char → Reading × Option (List Char)
  | between, c =>
    if isSeparator c then (between, none)
    else if c = '#' then (comment, none)
    else bare [] c
  | comment, c => (if isLineBreak c then between else comment, none)
  | token read none, c => bare read c
  | token read (some quote), c => quoted read quote c
  | escape read quote, c =>
    if isLineBreak c then (continued read quote, none)
    else (token (read ++ [unescape c]) (some quote), none)
  | continued read quote, c =>
    if isSeparator c then (continued read quote, none) else quoted read quote c

/-- The token that the end of the file ends. -/
def last? : Reading → Option (List Char)
  | between | comment => none
  | token read _ | escape read _ | continued read _ => some read

def tokens (r : Reading) : List Char → List (List Char)
  | [] => r.last?.toList
  | c :: rest => (r.step c).2.toList ++ tokens (r.step c).1 rest

end Reading

def read (file : String) : List String := (Reading.between.tokens file.toList).map String.ofList

end PageBuild.ArgumentFile
