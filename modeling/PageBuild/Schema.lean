import PageBuild.Json
import PageBuild.PathName
import PageBuild.Text.Blank
import PageBuild.Text.Digit
import PageBuild.Text.Surrogate

/-! Reading typed values from documents. A reader turns a JSON value into a typed one or lists what
is wrong with it; a record reader goes on after a bad field, so that all issues are reported
together. Numbers and truth values may be written in more than one way, texts may not. -/
namespace PageBuild.Schema

inductive IssueKind
  | missing
  | extra
  | record (model : String)
  | text
  | unicode
  | path
  | boolSpelling
  | bool
  | intSpelling
  | intSize
  | intFraction
  | finite
  | int
  | atLeast (bound : Nat)
  | list
  | table
  | value (why : String)
  | noField (name : String)
  | nesting
  deriving DecidableEq, Repr

def IssueKind.name : IssueKind → String
  | .missing => "missing"
  | .extra => "extra_forbidden"
  | .record _ => "model_type"
  | .text => "string_type"
  | .unicode => "string_unicode"
  | .path => "path_type"
  | .boolSpelling => "bool_parsing"
  | .bool => "bool_type"
  | .intSpelling => "int_parsing"
  | .intSize => "int_parsing_size"
  | .intFraction => "int_from_float"
  | .finite => "finite_number"
  | .int => "int_type"
  | .atLeast _ => "greater_than_equal"
  | .list => "list_type"
  | .table => "dict_type"
  | .value _ => "value_error"
  | .noField _ => "no_such_attribute"
  | .nesting => "recursion_loop"

def IssueKind.message : IssueKind → String
  | .missing => "Field required"
  | .extra => "Extra inputs are not permitted"
  | .record model => s!"Input should be a valid dictionary or instance of {model}"
  | .text => "Input should be a valid string"
  | .unicode => "Input should be a valid string, unable to parse raw data as a unicode string"
  | .path => "Input is not a valid path for <class 'pathlib.Path'>"
  | .boolSpelling => "Input should be a valid boolean, unable to interpret input"
  | .bool => "Input should be a valid boolean"
  | .intSpelling => "Input should be a valid integer, unable to parse string as an integer"
  | .intSize => "Unable to parse input string as an integer, exceeded maximum size"
  | .intFraction => "Input should be a valid integer, got a number with a fractional part"
  | .finite => "Input should be a finite number"
  | .int => "Input should be a valid integer"
  | .atLeast bound => s!"Input should be greater than or equal to {bound}"
  | .list => "Input should be a valid list"
  | .table => "Input should be a valid dictionary"
  | .value why => s!"Value error, {why}"
  | .noField name => s!"Object has no attribute '{name}'"
  | .nesting => "Recursion error - cyclic reference detected"

/-- A step on the way to a value: the name of a member or the number of an item. -/
inductive Step
  | member (name : String)
  | item (index : Nat)
  deriving DecidableEq, Repr

structure Issue where
  kind : IssueKind
  place : List Step := []
  deriving DecidableEq, Repr

structure Report where
  model : String
  issues : List Issue
  deriving DecidableEq, Repr

def Step.text : Step → String
  | .member name => name
  | .item index => Decimal.text index

/-- How many issues there are, then two lines for each. -/
def Report.message (r : Report) : String :=
  let count := r.issues.length
  let noun := if count = 1 then "validation error" else "validation errors"
  let heading := s!"{count} {noun} for {r.model}"
  let rows := r.issues.map fun issue =>
    let place := Text.join "." (issue.place.map Step.text)
    s!"{place}\n  {issue.kind.message} [type={issue.kind.name}]"
  Text.join "\n" (heading :: rows)

abbrev Check (α : Type) := Except (List Issue) α

def fail {α : Type} (kind : IssueKind) : Check α := .error [{ kind }]

/-- Issues of a value inside another one are reported from there. -/
def within {α : Type} (step : Step) (c : Check α) : Check α :=
  match c with
  | .ok a => .ok a
  | .error issues => .error (issues.map fun issue => { issue with place := step :: issue.place })

def text : Json → Check String
  | .str s => .ok s
  | _ => fail .text

/-- A text that is looked into, which takes one without surrogates. -/
def encodable (s : String) : Check String := if Text.IsEncodable s then .ok s else fail .unicode

def trimmed (j : Json) : Check String := do return Text.stripWhite (← encodable (← text j))

def path (j : Json) : Check PathName :=
  match trimmed j with
  | .ok s => .ok (PathName.ofText s)
  | .error _ => fail .path

def optional {α : Type} (read : Json → Check α) : Json → Check (Option α)
  | .null => .ok none
  | j => some <$> read j

def truths : List (String × Bool) := [
  ("true", true), ("t", true), ("yes", true), ("y", true), ("on", true), ("1", true),
  ("false", false), ("f", false), ("no", false), ("n", false), ("off", false), ("0", false)]

/-- The truth value that a number stands for. Numbers beyond sixty-four bits are none at all. -/
def boolOfInt (n : Int) (low high : Int) : Check Bool :=
  if n = 0 then .ok false
  else if n = 1 then .ok true
  else if low ≤ n && n ≤ high then fail .boolSpelling
  else fail .bool

def wordLimit : Int := Nat.pow 2 63

def bool : Json → Check Bool
  | .bool b => .ok b
  | .int n => boolOfInt n (-wordLimit) (wordLimit - 1)
  | .float x => match x.toInt? with
    | some n => boolOfInt n (1 - wordLimit) (wordLimit - 1)
    | none => fail .bool
  | .str s => do
    let s ← encodable s
    match truths.find? fun (word, _) => word.toList = s.toList.map Char.toLower with
    | some (_, b) => return b
    | none => fail .boolSpelling
  | _ => fail .bool

def isAsciiDigit (c : Char) : Bool := '0' ≤ c && c ≤ '9'

/-- The digits of a numeral whose underscores stand one by one between digits. -/
def plainDigits? : List Char → Option (List Char)
  | [] => none
  | [c] => if isAsciiDigit c then some [c] else none
  | c :: '_' :: rest => if isAsciiDigit c then (plainDigits? rest).map (c :: ·) else none
  | c :: rest => if isAsciiDigit c then (plainDigits? rest).map (c :: ·) else none

/-- A whole number written as a text: a sign, digits, and a fraction of zeros. -/
def intOfText (s : List Char) : Check Int :=
  let s := Text.trim Text.isWhite s
  let (negative, s) := match s with
    | '-' :: rest => (true, rest)
    | '+' :: rest => (false, rest)
    | _ => (false, s)
  let whole := s.takeWhile (· ≠ '.')
  let fraction := s.drop whole.length
  let zeros := match fraction with
    | [] => true
    | _ :: places => !places.isEmpty && places.all (· = '0')
  match plainDigits? whole with
  | some digits =>
    if !zeros then fail .intSpelling
    else if Text.numeralLimit < (digits.dropWhile (· = '0')).length then fail .intSize
    else
      let n : Int := Text.natOfDigits digits
      .ok (if negative then -n else n)
  | none => fail .intSpelling

def int : Json → Check Int
  | .int n => .ok n
  | .bool b => .ok (if b then 1 else 0)
  | .float x =>
    if !x.isFinite then fail .finite
    else match x.toInt? with
      | none => fail .intFraction
      | some n => if -wordLimit < n && n < wordLimit then .ok n else fail .intSize
  | .str s => do intOfText (← encodable s).toList
  | _ => fail .int

def atLeast (bound : Nat) (j : Json) : Check { n : Nat // bound ≤ n } := do
  let n ← int j
  if h : bound ≤ n.toNat ∧ 0 ≤ n then return ⟨n.toNat, h.1⟩ else fail (.atLeast bound)

/-- Reads items one by one and lists the issues of all of them. -/
def listFrom {α : Type} (read : Json → Check α) : (index : Nat) → List Json → Check (List α)
  | _, [] => .ok []
  | index, item :: rest =>
    match within (.item index) (read item), listFrom read (index + 1) rest with
    | .ok a, .ok as => .ok (a :: as)
    | .ok _, .error later => .error later
    | .error issues, .ok _ => .error issues
    | .error issues, .error later => .error (issues ++ later)

def list {α : Type} (read : Json → Check α) : Json → Check (List α)
  | .arr items => listFrom read 0 items
  | _ => fail .list

/-- Puts a value under a number: in the place of an earlier value, else at the end. -/
def putNumber {α : Type} (entries : List (Int × α)) (n : Int) (value : α) : List (Int × α) :=
  match entries with
  | [] => [(n, value)]
  | (m, v) :: rest => if m = n then (n, value) :: rest else (m, v) :: putNumber rest n value

/-- Reads a table from numbers to texts, whose names are the numerals. -/
def numberedFrom (read : List (Int × String)) :
    List (String × Json) → Check (List (Int × String))
  | [] => .ok read
  | (name, value) :: rest =>
    let key := within (.member name) (within (.member "[key]") (int (.str name)))
    let item := within (.member name) (text value)
    match key, item with
    | .ok n, .ok s => numberedFrom (putNumber read n s) rest
    | key, item =>
      let issuesOf {α : Type} (c : Check α) : List Issue :=
        match c with
        | .ok _ => []
        | .error issues => issues
      .error (issuesOf key ++ issuesOf item ++ issuesOf (numberedFrom read rest))

def numbered : Json → Check (List (Int × String))
  | .obj members => numberedFrom [] members
  | _ => fail .table

structure Field (σ : Type) (ν : Type := Json) where
  name : String
  required : Bool := false
  store : ν → σ → Check σ

/-- Reads the fields one after the other into a record and lists the issues of all of them. -/
def readFields {σ ν : Type} (members : List (String × ν)) :
    List (Field σ ν) → σ → σ × List Issue
  | [], record => (record, [])
  | field :: rest, record =>
    let stored : Check σ :=
      match Json.find? members field.name with
      | some value => within (.member field.name) (field.store value record)
      | none =>
        if field.required then within (.member field.name) (fail .missing) else .ok record
    match stored with
    | .ok record => readFields members rest record
    | .error issues =>
      let (record, later) := readFields members rest record
      (record, issues ++ later)

def extras {σ ν : Type} (fields : List (Field σ ν)) (members : List (String × ν)) : List Issue :=
  members.filterMap fun (name, _) =>
    if fields.any (·.name = name) then none
    else some { kind := IssueKind.extra, place := [.member name] }

def ofMembers {σ ν : Type} (fields : List (Field σ ν)) (blank : σ) (members : List (String × ν)) :
    Check σ :=
  let (record, issues) := readFields members fields blank
  match issues ++ extras fields members with
  | [] => .ok record
  | issues => .error issues

def record {σ : Type} (model : String) (fields : List (Field σ)) (blank : σ) : Json → Check σ
  | .obj members => ofMembers fields blank members
  | _ => fail (.record model)

def assign {σ ν : Type} (fields : List (Field σ ν)) (name : String) (value : ν) (record : σ) :
    Check σ :=
  match fields.find? (·.name = name) with
  | some field => within (.member name) (field.store value record)
  | none => within (.member name) (fail (.noField name))

def report {α : Type} (model : String) (c : Check α) : Except Report α :=
  match c with
  | .ok a => .ok a
  | .error issues => .error { model, issues }

end PageBuild.Schema
