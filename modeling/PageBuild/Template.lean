import PageBuild.FileTree
import PageBuild.Template.Layout

/-! Message templates. A template is text with places in braces; a place names an argument by
number, or takes the next one, may look inside it, may show it in quotes, and may lay it out. The
layout may hold places of its own, but no deeper. Places are filled from left to right, and the
first that fails decides the outcome. What a value is like inside is the runtime's affair: a look-up
tells it, and a template is filled with a look-up of any kind. -/
namespace PageBuild.Template

inductive Value
  | text (s : String)
  | int (n : Int)
  | path (p : PathName)
  | refusal (e : OsError)
  | sort (name : String)
  /-- Something else inside a value, which only a look-up knows. -/
  | object (key : Nat)
  deriving Repr

inductive Fault
  | missing
  | mistake (m : Mistake)
  | attribute
  | unsuited
  | overflow
  deriving DecidableEq, Repr

def refusalName : Errno → String
  | .noEntry => "FileNotFoundError"
  | .exists => "FileExistsError"
  | .notDirectory => "NotADirectoryError"
  | .isDirectory => "IsADirectoryError"
  | .execFormat | .nameTooLong => "OSError"

/-- What is known of the inside of values: their attributes, and all about objects. -/
structure Lookup where
  attributeOf : Value → String → Except Fault Value
  /-- The element of an object under a name, with the number that the name writes. -/
  elementOf : Nat → List Char → Option Nat → Except Fault Value
  textOf : Nat → Except Fault (List Char)
  shownOf : Nat → Except Fault (List Char)
  /-- An object in a layout that is not empty. -/
  layOut : Nat → List Char → Except Fault (List Char)

instance : Repr Lookup := ⟨fun _ _ => "look-up"⟩

namespace Value

def sortName : Value → String
  | .text _ => "str"
  | .int _ => "int"
  | .path _ => "PosixPath"
  | .refusal e => refusalName e.errno
  | .sort _ => "type"
  | .object _ => "object"

/-- An attribute that is no object. -/
def attribute? (v : Value) (name : String) : Except Fault Value :=
  match v, name with
  | .int n, "real" | .int n, "numerator" => .ok (.int n)
  | .int _, "imag" => .ok (.int 0)
  | .int _, "denominator" => .ok (.int 1)
  | .path p, "name" => .ok (.text p.name)
  | .path p, "parent" => .ok (.path p.parent)
  | .path p, "stem" => .ok (.text (String.ofList (PathName.stem p.name.toList)))
  | .path p, "suffix" =>
    .ok (.text (String.ofList (p.name.toList.drop (PathName.stem p.name.toList).length)))
  | .refusal e, "errno" => .ok (.int e.errno.number)
  | .refusal e, "strerror" => .ok (.text e.errno.message)
  | .refusal e, "filename" => .ok (.text e.path)
  | .sort name, "__name__" => .ok (.text name)
  | v, "__class__" => .ok (.sort v.sortName)
  | _, _ => .error .attribute

end Value

/-- The look-up that finds no objects; they would have no elements and empty texts. -/
def Lookup.plain : Lookup where
  attributeOf := Value.attribute?
  elementOf _ _ _ := .error .unsuited
  textOf _ := .ok []
  shownOf _ := .ok []
  layOut _ _ := .ok []

namespace Value

variable (known : Lookup)

def text? : Value → Except Fault (List Char)
  | .text s => .ok s.toList
  | .int n =>
    if Text.numeralLimit < Decimal.length n.natAbs then .error (.mistake .longNumeral)
    else .ok (Decimal.ofInt n)
  | .path p => .ok p.text.toList
  | .refusal e => .ok e.message.toList
  | .sort name => .ok s!"<class '{name}'>".toList
  | .object key => known.textOf key

/-- The text of a value as it is written in a program. -/
def shown? : Value → Except Fault (List Char)
  | .text s => .ok (Text.quoted s).toList
  | .path p => .ok s!"PosixPath({Text.quoted p.text})".toList
  | .refusal e =>
    .ok s!"{refusalName e.errno}({e.errno.number}, {Text.quoted e.errno.message})".toList
  | .object key => known.shownOf key
  | v => v.text? known

/-- An element of a value; the characters of a text are numbered. -/
def element? (v : Value) (name : List Char) (index : Option Nat) : Except Fault Value :=
  match v, index with
  | .text s, some n => match s.toList[n]? with
    | some c => .ok (.text (String.ofList [c]))
    | none => .error .missing
  | .object key, index => known.elementOf key name index
  | _, _ => .error .unsuited

/-- A value in a layout. Beside objects, only texts and whole numbers take one that is not empty. -/
def render (v : Value) (spec : List Char) : Except Fault (List Char) :=
  if spec.isEmpty then v.text? known
  else
    let lift (r : Except LayoutFault (List Char)) : Except Fault (List Char) :=
      match r with
      | .ok s => .ok s
      | .error (.mistake m) => .error (.mistake m)
      | .error .overflow => .error .overflow
    match v with
    | .text s => match Spec.ofText spec .text with
      | .ok spec => lift (layoutText spec s.toList)
      | .error m => .error (.mistake m)
    | .int n => match Spec.ofText spec .int with
      | .ok spec => lift (layoutInt spec n)
      | .error m => .error (.mistake m)
    | .object key => known.layOut key spec
    | _ => .error .unsuited

end Value

/-- How places number their arguments: not settled yet, by themselves, or by the text. -/
inductive Numbering
  | unsettled
  | automatic (next : Nat)
  | manual
  deriving DecidableEq, Repr

structure Hole where
  name : List Char
  conversion : Option Char
  spec : List Char
  deriving DecidableEq, Repr

/-- The name of a place and what follows it, from the mark that ends it on. A bracket hides the
marks inside it. -/
def takeName : (inBracket : Bool) → (read : List Char) → List Char →
    Except Mistake (List Char × Char × List Char)
  | _, _, [] => .error .noClose
  | true, read, c :: rest => takeName (c ≠ ']') (c :: read) rest
  | false, read, c :: rest =>
    if c = '\x7b' then .error .openInName
    else if c = '\x7d' || c = ':' || c = '!' then .ok (read.reverse, c, rest)
    else takeName (c = '[') (c :: read) rest

/-- The layout of a place, up to the brace that closes the place; inner braces are paired. -/
def takeSpec : (depth : Nat) → (read : List Char) → List Char →
    Except Mistake (List Char × List Char)
  | _, _, [] => .error .openSpec
  | depth, read, c :: rest =>
    if c = '\x7b' then takeSpec (depth + 1) (c :: read) rest
    else if c = '\x7d' then
      match depth with
      | 0 => .ok (read.reverse, rest)
      | depth + 1 => takeSpec depth (c :: read) rest
    else takeSpec depth (c :: read) rest

def takePlace (s : List Char) : Except Mistake (Hole × List Char) := do
  let (name, mark, rest) ← takeName false [] s
  if mark = '\x7d' then return (⟨name, none, []⟩, rest)
  else if mark = ':' then
    let (spec, rest) ← takeSpec 0 [] rest
    return (⟨name, none, spec⟩, rest)
  else match rest with
    | [] => throw .noConversion
    | [_] => throw .openSpec
    | conversion :: '\x7d' :: rest => return (⟨name, some conversion, []⟩, rest)
    | conversion :: ':' :: rest =>
      let (spec, rest) ← takeSpec 0 [] rest
      return (⟨name, some conversion, spec⟩, rest)
    | _ => throw .noColon

def index? (name : List Char) : Except Mistake (Option Nat) :=
  if name.isEmpty || !name.all Text.isDigit then .ok none
  else
    let n := Text.natOfDigits name
    if n < digitLimit then .ok (some n) else .error .manyDigits

variable (known : Lookup)

/-- Follows the attributes and elements named after an argument. The fuel bounds their number. -/
def follow : (fuel : Nat) → Value → List Char → Except Fault Value
  | 0, v, _ => .ok v
  | _ + 1, v, [] => .ok v
  | fuel + 1, v, '.' :: rest => do
    let name := rest.takeWhile fun c => c ≠ '.' && c ≠ '['
    if name.isEmpty then throw (.mistake .emptyAttribute)
    let inner ← known.attributeOf v (String.ofList name)
    follow fuel inner (rest.drop name.length)
  | fuel + 1, v, '[' :: rest => do
    let name := rest.takeWhile (· ≠ ']')
    if name.length = rest.length then throw (.mistake .noBracket)
    let index ← (index? name).mapError Fault.mistake
    if name.isEmpty then throw (.mistake .emptyAttribute)
    let inner ← v.element? known name index
    follow fuel inner (rest.drop (name.length + 1))
  | _, _, _ => .error (.mistake .afterBracket)

def argument (arguments : List Value) (numbering : Numbering) (name : List Char) :
    Except Fault (Value × Numbering) := do
  let first := name.takeWhile fun c => c ≠ '.' && c ≠ '['
  let rest := name.drop first.length
  let index ← (index? first).mapError Fault.mistake
  let (index, numbering) ← match numbering, index with
    | .unsettled, some n => pure (some n, Numbering.manual)
    | .manual, some n => pure (some n, Numbering.manual)
    | .automatic _, some _ => throw (.mistake .toManual)
    | numbering, none =>
      if !first.isEmpty then pure (none, numbering)
      else match numbering with
        | .unsettled => pure (some 0, Numbering.automatic 1)
        | .automatic next => pure (some next, Numbering.automatic (next + 1))
        | .manual => throw (.mistake .toAutomatic)
  match index.bind (arguments[·]?) with
  | none => throw .missing
  | some v =>
    let v ← follow known (rest.length + 1) v rest
    return (v, numbering)

def convert (v : Value) : Option Char → Except Fault Value
  | none => .ok v
  | some 's' => do return .text (String.ofList (← v.text? known))
  | some 'r' => do return .text (String.ofList (← v.shown? known))
  | some 'a' => do return .text (Text.asciiOnly (String.ofList (← v.shown? known)))
  | some c => .error (.mistake (.conversion c))

/-- Fills the places of a text; `expand` fills those of their layouts. The fuel bounds the steps,
which the length of the text does too. -/
def fillWith (arguments : List Value)
    (expand : Numbering → List Char → Except Fault (List Char × Numbering)) :
    (fuel : Nat) → Numbering → List Char → Except Fault (List Char × Numbering)
  | 0, numbering, _ => .ok ([], numbering)
  | fuel + 1, numbering, s => do
    let isPlain (c : Char) : Bool := c ≠ '\x7b' && c ≠ '\x7d'
    let plain := s.takeWhile isPlain
    match s.drop plain.length with
    | [] => return (plain, numbering)
    | '\x7b' :: '\x7b' :: rest =>
      let (more, numbering) ← fillWith arguments expand fuel numbering rest
      return (plain ++ '\x7b' :: more, numbering)
    | '\x7d' :: '\x7d' :: rest =>
      let (more, numbering) ← fillWith arguments expand fuel numbering rest
      return (plain ++ '\x7d' :: more, numbering)
    | '\x7b' :: rest =>
      if rest.isEmpty then throw (.mistake .loneOpen)
      let (place, rest) ← (takePlace rest).mapError Fault.mistake
      let (v, numbering) ← argument known arguments numbering place.name
      let v ← convert known v place.conversion
      let (spec, numbering) ←
        if place.spec.contains '\x7b' then expand numbering place.spec
        else pure (place.spec, numbering)
      let shown ← v.render known spec
      let (more, numbering) ← fillWith arguments expand fuel numbering rest
      return (plain ++ shown ++ more, numbering)
    | _ => throw (.mistake .loneClose)

/-- Fills the places of a text and, to the given depth, those of layouts inside it. -/
def fillTo (arguments : List Value) :
    (depth : Nat) → Numbering → List Char → Except Fault (List Char × Numbering)
  | 0, _, _ => .error (.mistake .tooDeep)
  | depth + 1, numbering, s =>
    fillWith known arguments (fillTo arguments depth) (s.length + 1) numbering s

def fill (template : String) (arguments : List Value) : Except Fault String := do
  let (s, _) ← fillTo known arguments 2 .unsettled template.toList
  return String.ofList s

end PageBuild.Template
