import PageBuild.PathName
import PageBuild.Text.Quoted
import PageBuild.Text.Utf8

/-! A tree of files and directories, seen from a current directory. Operations take path texts as
an operating system does: every part but the last must be an existing directory, two dots lead to
the parent, and a refusal names the path as it was given. What an operation did before it was
refused stays done.

The tree is that of a POSIX system with room to write and for a user who may do everything. It has
no links and no other kinds of files; whether a file can be executed is the only permission; no disk
is ever full; and names that differ are different, as they are where a system folds no case. -/
namespace PageBuild

inductive Errno
  | noEntry
  | execFormat
  | exists
  | notDirectory
  | isDirectory
  | nameTooLong
  deriving DecidableEq, Repr

def Errno.number : Errno → Nat
  | .noEntry => 2
  | .execFormat => 8
  | .exists => 17
  | .notDirectory => 20
  | .isDirectory => 21
  | .nameTooLong => 36

def Errno.message : Errno → String
  | .noEntry => "No such file or directory"
  | .execFormat => "Exec format error"
  | .exists => "File exists"
  | .notDirectory => "Not a directory"
  | .isDirectory => "Is a directory"
  | .nameTooLong => "File name too long"

structure OsError where
  errno : Errno
  path : String
  deriving DecidableEq, Repr

def OsError.message (e : OsError) : String :=
  s!"[Errno {e.errno.number}] {e.errno.message}: {Text.quoted e.path}"

/-- Why a text never reaches the operating system: it has no encoding, or it holds a NUL. -/
inductive TextFault
  | unencodable (e : Utf8.Unencodable)
  | nul
  deriving DecidableEq, Repr

namespace TextFault

def message : TextFault → String
  | .unencodable e => e.message
  | .nul => "embedded null byte"

/-- What keeps a text from the operating system. Of the surrogates, those that keep a byte are
passed on as that byte. -/
def of? (text : String) : Option TextFault :=
  match Utf8.unencodable? Text.isByte text.toList with
  | some e => some (.unencodable e)
  | none => if text.toList.contains (Char.ofNat 0) then some .nul else none

theorem of?_eq_none_iff {text : String} :
    of? text = none ↔ ∀ c ∈ text.toList, (Text.isSurrogate c = true → Text.isByte c = true) ∧
      c ≠ Char.ofNat 0 := by
  unfold of?
  cases encoded : Utf8.unencodable? Text.isByte text.toList with
  | some e =>
    have bad : ¬ ∀ c ∈ text.toList, Text.isSurrogate c = true → Text.isByte c = true := by
      rw [← Utf8.unencodable?_eq_none_iff, encoded]
      nofun
    exact iff_of_false nofun fun all => bad fun c member => (all c member).1
  | none =>
    have good := Utf8.unencodable?_eq_none_iff.mp encoded
    simp only [List.contains_iff_mem, ite_eq_right_iff, reduceCtorEq, imp_false]
    constructor
    · exact fun noNul c member => ⟨good c member, fun nul => noNul (nul ▸ member)⟩
    · exact fun all nul => (all _ nul).2 rfl

theorem of?_of_isEncodable {text : String} (encodable : Text.IsEncodable text)
    (noNul : Char.ofNat 0 ∉ text.toList) : of? text = none := by
  refine of?_eq_none_iff.mpr fun c member => ⟨fun surrogate => ?_, fun nul => noNul (nul ▸ member)⟩
  rw [encodable c member] at surrogate
  cases surrogate

end TextFault

/-- Why a path operation fails: the operating system refuses, or it is never asked. -/
inductive PathFault
  | os (e : OsError)
  | text (e : TextFault)
  deriving DecidableEq, Repr

inductive Entry
  | file (content : List UInt8) (executable : Bool)
  | directory
  deriving DecidableEq, Repr

def Entry.isFile : Entry → Bool
  | .file .. => true
  | .directory => false

def Entry.isExecutable : Entry → Bool
  | .file _ executable => executable
  | .directory => false

/-- A place in the tree: the names that lead to it from the root. -/
abbrev Place := List String

structure FileTree where
  entries : List (Place × Entry)
  current : Place
  deriving DecidableEq, Repr

namespace FileTree

/-- Names of more bytes than this are refused. -/
def nameLimit : Nat := 255

/-- Paths of this many bytes or more are refused. -/
def pathLimit : Nat := 4096

def find? (entries : List (Place × Entry)) (place : Place) : Option Entry :=
  (entries.find? (·.1 = place)).map (·.2)

/-- What stands at a place; the root is a directory. -/
def entry? (t : FileTree) (place : Place) : Option Entry :=
  if place = [] then some .directory else find? t.entries place

def put (t : FileTree) (place : Place) (entry : Entry) : FileTree :=
  { t with entries := t.entries.filter (·.1 ≠ place) ++ [(place, entry)] }

def erase (t : FileTree) (place : Place) : FileTree :=
  { t with entries := t.entries.filter (·.1 ≠ place) }

def eraseBelow (t : FileTree) (place : Place) : FileTree :=
  { t with entries := t.entries.filter fun (p, _) => !(place.isPrefixOf p && p ≠ place) }

def isDirectoryAt (t : FileTree) (place : Place) : Bool := t.entry? place = some .directory

/-- Follows names from a place. All but the last must be there. -/
def walk (t : FileTree) (place : Place) : List String → Except Errno Place
  | [] => .ok place
  | name :: rest =>
    if !t.isDirectoryAt place then .error .notDirectory
    else if nameLimit < Text.byteSize name then .error .nameTooLong
    else if name = "." then walk t place rest
    else if name = ".." then walk t place.dropLast rest
    else
      let next := place ++ [name]
      if rest.isEmpty then .ok next
      else match t.entry? next with
        | none => .error .noEntry
        | some _ => walk t next rest

/-- The names of a path text; a trailing slash asks for a directory. -/
def namesOf (path : String) : List String :=
  let names := ((Text.splitOn '/' path.toList).map String.ofList).filter (· ≠ "")
  if path.toList.getLast? = some '/' then names ++ ["."] else names

/-- The place that a path text leads to; nothing need stand there. -/
def resolve (t : FileTree) (path : String) : Except PathFault Place :=
  match TextFault.of? path with
  | some e => .error (.text e)
  | none =>
    if pathLimit ≤ Text.byteSize path then .error (.os ⟨.nameTooLong, path⟩)
    else if path = "" then .error (.os ⟨.noEntry, path⟩)
    else
      let start := if path.toList.head? = some '/' then [] else t.current
      match t.walk start (namesOf path) with
      | .ok place => .ok place
      | .error errno => .error (.os ⟨errno, path⟩)

def stat (t : FileTree) (path : String) : Except PathFault Entry :=
  match t.resolve path with
  | .error e => .error e
  | .ok place => match t.entry? place with
    | some entry => .ok entry
    | none => .error (.os ⟨.noEntry, path⟩)

/-- A question about a path: a missing path answers no, and so does one that the operating system
cannot be asked about; any other refusal stays one. -/
def ask (t : FileTree) (path : String) (yes : Entry → Bool) : Except OsError Bool :=
  match t.stat path with
  | .ok entry => .ok (yes entry)
  | .error (.text _) => .ok false
  | .error (.os e) =>
    if e.errno = .noEntry || e.errno = .notDirectory then .ok false else .error e

def exists? (t : FileTree) (path : String) : Except OsError Bool := t.ask path fun _ => true
def isFile? (t : FileTree) (path : String) : Except OsError Bool := t.ask path Entry.isFile
def isDirectory? (t : FileTree) (path : String) : Except OsError Bool :=
  t.ask path (· = .directory)

def isProgram (t : FileTree) (path : String) : Bool :=
  match t.stat path with
  | .ok entry => Entry.isExecutable entry
  | .error _ => false

def contentOf (t : FileTree) (path : String) : Except PathFault (List UInt8) :=
  match t.stat path with
  | .error e => .error e
  | .ok .directory => .error (.os ⟨.isDirectory, path⟩)
  | .ok (.file content _) => .ok content

abbrev Change := EStateM PathFault FileTree

def makeDirectory (path : String) : Change Unit := do
  let t ← get
  match t.resolve path with
  | .error e => throw e
  | .ok place =>
    if (t.entry? place).isSome then throw (.os ⟨.exists, path⟩)
    else if !t.isDirectoryAt place.dropLast then throw (.os ⟨.notDirectory, path⟩)
    else set (t.put place .directory)

/-- After a refusal to make a directory: it is no loss if the directory is there. -/
def orDirectory (path : String) (e : PathFault) : Change Unit := do
  match e with
  | .text _ => throw e
  | .os _ =>
    match (← get).isDirectory? path with
    | .error refusal => throw (.os refusal)
    | .ok true => return
    | .ok false => throw e

/-- Makes a directory that may be there already; its parent must be. -/
def keepDirectory (p : PathName) : Change Unit :=
  tryCatch (makeDirectory p.text) fun e =>
    match e with
    | .os ⟨.noEntry, _⟩ => throw e
    | _ => orDirectory p.text e

/-- Makes a directory that may be there already, and the missing ones above it. The depth counts
the parts of the path. -/
def ensureFrom : (depth : Nat) → PathName → Change Unit
  | 0, p => keepDirectory p
  | depth + 1, p =>
    tryCatch (makeDirectory p.text) fun e =>
      match e with
      | .os ⟨.noEntry, _⟩ => do
        ensureFrom depth p.parent
        keepDirectory p
      | _ => orDirectory p.text e

def ensureDirectory (p : PathName) : Change Unit := ensureFrom p.parts.length p

def write (path : String) (content : List UInt8) : Change Unit := do
  let t ← get
  match t.resolve path with
  | .error e => throw e
  | .ok place =>
    match t.entry? place with
    | some .directory => throw (.os ⟨.isDirectory, path⟩)
    | some (.file _ executable) => set (t.put place (.file content executable))
    | none =>
      if t.isDirectoryAt place.dropLast then set (t.put place (.file content false))
      else throw (.os ⟨.notDirectory, path⟩)

/-- Writes a text. One that has no encoding fails once the file is there, which is empty then. -/
def writeText (path text : String) : Change Unit :=
  match Utf8.unencodable? (fun _ => false) text.toList with
  | none => write path (Utf8.encode text)
  | some e => do
    write path []
    throw (.text (.unencodable e))

def unlink (path : String) : Change Unit := do
  let t ← get
  match t.resolve path with
  | .error e => throw e
  | .ok place =>
    match t.entry? place with
    | none => throw (.os ⟨.noEntry, path⟩)
    | some .directory => throw (.os ⟨.isDirectory, path⟩)
    | some (.file ..) => set (t.erase place)

/-- Deletes a directory with all that is below it, as far as that goes: a file stays, and so does
a directory whose path ends in no name of its own. -/
def removeTree (t : FileTree) (p : PathName) : FileTree :=
  match t.resolve p.text with
  | .error _ => t
  | .ok place =>
    if t.isDirectoryAt place then
      let emptied := t.eraseBelow place
      if p.parts.isEmpty || p.name = ".." then emptied else emptied.erase place
    else t

def below (t : FileTree) (place : Place) : List (Place × Entry) :=
  t.entries.filterMap fun (p, entry) =>
    if place.isPrefixOf p && p ≠ place then some (p.drop place.length, entry) else none

end FileTree
end PageBuild
