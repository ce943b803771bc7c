import PageBuild.LineMap.Entry
import PageBuild.Text.Quoted

/-! Line maps: which template lines the lines of one generated file come from. A map is consistent
if every section names a declared file; maps are read from documents with that check. -/
namespace PageBuild

structure LineMap where
  generatedFile : String
  className : String
  stratum : String := "JSP"
  /-- The template files by number, every number once. -/
  files : List (Int × String) := []
  entries : List LineEntry := []
  deriving DecidableEq, Repr

structure TemplateLine where
  file : String
  line : Nat
  deriving DecidableEq, Repr

structure UnknownFile where
  id : Nat
  deriving DecidableEq, Repr

def UnknownFile.message (e : UnknownFile) : String :=
  match Decimal.written e.id with
  | .ok id => s!"Line map entry references unknown file id {id}"
  | .error long => long.message

namespace LineMap

def file? (m : LineMap) (id : Nat) : Option String :=
  (m.files.find? fun (n, _) => n = id).map (·.2)

def unknown? (m : LineMap) : Option UnknownFile :=
  (m.entries.find? fun e => (m.file? e.fileId).isNone).map fun e => ⟨e.fileId⟩

def IsConsistent (m : LineMap) : Prop := ∀ e ∈ m.entries, (m.file? e.fileId).isSome

instance (m : LineMap) : Decidable m.IsConsistent := inferInstanceAs (Decidable (∀ _ ∈ _, _))

theorem unknown?_eq_none_iff (m : LineMap) : m.unknown? = none ↔ m.IsConsistent := by
  simp [unknown?, IsConsistent, Option.isSome_iff_ne_none]

/-- The template line of a generated line, by the first section that has the line. -/
def resolveBy (m : LineMap) (line : Int) : List LineEntry → Except UnknownFile (Option TemplateLine)
  | [] => .ok none
  | e :: rest =>
    match e.resolve line with
    | none => resolveBy m line rest
    | some n => match m.file? e.fileId with
      | some file => .ok (some ⟨file, n⟩)
      | none => .error ⟨e.fileId⟩

def resolve (m : LineMap) (line : Int) : Except UnknownFile (Option TemplateLine) :=
  m.resolveBy line m.entries

theorem resolveBy_of_isConsistent {m : LineMap} (line : Int) {entries : List LineEntry}
    (h : ∀ e ∈ entries, (m.file? e.fileId).isSome) :
    ∃ found, m.resolveBy line entries = .ok found := by
  induction entries with
  | nil => exact ⟨none, rfl⟩
  | cons e rest ih =>
    obtain ⟨file, hf⟩ := Option.isSome_iff_exists.mp (h e List.mem_cons_self)
    cases hr : e.resolve line with
    | none => simpa [resolveBy, hr] using ih fun e he => h e (List.mem_cons_of_mem _ he)
    | some n => exact ⟨some ⟨file, n⟩, by simp [resolveBy, hr, hf]⟩

/-- A path that has no last part to put a suffix on. -/
structure EmptyName where
  path : PathName
  deriving DecidableEq, Repr

def EmptyName.message (e : EmptyName) : String :=
  s!"PosixPath({Text.quoted e.path.text}) has an empty name"

/-- The path of the class: every dot of its name starts a part. -/
def classPath (m : LineMap) : PathName :=
  PathName.ofTexts ((Text.splitOn '.' m.className.toList).map String.ofList)

def classFile (m : LineMap) : Except EmptyName PathName :=
  match m.classPath.withSuffix? ".class" with
  | some p => .ok p
  | none => .error ⟨m.classPath⟩

def smapFile (m : LineMap) : Except EmptyName PathName := do
  let p ← m.classFile
  match p.withSuffix? ".class.smap" with
  | some q => return q
  | none => throw ⟨p⟩

/-- The two lines of a file: its number and base name, and its path without leading slashes. -/
def fileLines : Int × String → Except Decimal.Overlong (List String)
  | (id, path) => do return [
    s!"+ {← Decimal.written id} {(PathName.ofText path).name}",
    String.ofList (path.toList.dropWhile (· = '/'))]

/-- The lines of sections, each seen from the one before it. -/
def entryLines : (previous? : Option Int) → List LineEntry →
    Except Decimal.Overlong (List String)
  | _, [] => .ok []
  | previous?, e :: rest => do
    let line ← e.smap previous?
    return line :: (← entryLines (some e.fileId) rest)

def sortedFiles (m : LineMap) : List (Int × String) := m.files.mergeSort fun a b => a.1 ≤ b.1

def smapLines (m : LineMap) : Except Decimal.Overlong (List String) := do
  let header := ["SMAP", (PathName.ofText m.generatedFile).name, m.stratum, s!"*S {m.stratum}", "*F"]
  let files ← m.sortedFiles.mapM fileLines
  let sections ← entryLines none m.entries
  return header ++ files.flatten ++ ["*L"] ++ sections ++ ["*E"]

def smap (m : LineMap) : Except Decimal.Overlong String := do
  return Text.join "\n" (← m.smapLines) ++ "\n"

def numbers (m : LineMap) : List Int :=
  m.files.map (·.1) ++ m.entries.flatMap LineEntry.numbers

def IsWritable (m : LineMap) : Prop := ∀ n ∈ m.numbers, Decimal.IsShort n

instance (m : LineMap) : Decidable m.IsWritable := inferInstanceAs (Decidable (∀ _ ∈ _, _))

theorem sortedFiles_perm (m : LineMap) : m.sortedFiles.Perm m.files := List.mergeSort_perm _ _

theorem sortedFiles_pairwise (m : LineMap) : m.sortedFiles.Pairwise fun a b => a.1 ≤ b.1 := by
  have sorted : m.sortedFiles.Pairwise fun a b => decide (a.1 ≤ b.1) = true :=
    List.pairwise_mergeSort (fun a b c => by simpa using Int.le_trans)
      (fun a b => by simpa using Int.le_total a.1 b.1) m.files
  simpa using sorted

def model : String := "LineMap"

def fields : List (Schema.Field LineMap) := [
  { name := "generated_file", required := true, store := fun j m => do
      return { m with generatedFile := ← Schema.text j } },
  { name := "class_name", required := true, store := fun j m => do
      return { m with className := ← Schema.text j } },
  { name := "stratum", store := fun j m => do return { m with stratum := ← Schema.text j } },
  { name := "files", store := fun j m => do return { m with files := ← Schema.numbered j } },
  { name := "entries", store := fun j m => do
      return { m with entries := ← Schema.list LineEntry.check j } }]

def consistent (m : LineMap) : Schema.Check Unit :=
  match m.unknown? with
  | some e => Schema.fail (.value e.message)
  | none => .ok ()

def check (j : Json) : Schema.Check LineMap := do
  let m ← Schema.record model fields { generatedFile := "", className := "" } j
  m.consistent
  return m

def read (j : Json) : Except Schema.Report LineMap := Schema.report model (check j)

theorem isConsistent_of_read {j : Json} {m : LineMap} (h : read j = .ok m) : m.IsConsistent := by
  rw [← unknown?_eq_none_iff]
  simp only [read, Schema.report, check] at h
  cases hr : Schema.record model fields { generatedFile := "", className := "" } j with
  | error issues => simp [hr, bind, Except.bind] at h
  | ok m' =>
    cases hu : m'.unknown? with
    | some e =>
      simp [hr, hu, consistent, Schema.fail, bind, Except.bind] at h
    | none =>
      simp [hr, hu, consistent, bind, Except.bind, pure, Except.pure] at h
      exact h ▸ hu

/-- Gives a value to the attribute of a name. One whose name starts with an underscore is kept
beside the fields; any other is a field. A value that the field takes stays, also if the map is not
consistent then; that is reported all the same. -/
def assign (m : LineMap) (name : String) (value : Json) : LineMap × Except Schema.Report Unit :=
  if name.toList.head? = some '_' then (m, .ok ())
  else match Schema.assign fields name value m with
    | .error issues => (m, .error { model, issues })
    | .ok m => (m, Schema.report model m.consistent)

end LineMap

/-- The line maps of a build: every generated file's name once, in their order. -/
abbrev LineMaps := List (String × LineMap)

/-- Reads the line maps under their names; the first that is refused decides. -/
def LineMaps.read : List (String × Json) → Except Schema.Report LineMaps
  | [] => .ok []
  | (name, j) :: rest => do
    let m ← LineMap.read j
    return (name, m) :: (← LineMaps.read rest)

end PageBuild
