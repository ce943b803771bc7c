import PageBuild.Charset
import PageBuild.Schema

/-! Compilation contexts: what one page is compiled with. Texts lose the white space at their ends;
the source must have a name, and the encoding is kept under the name that compilers know. -/
namespace PageBuild

/-- A source has a text that is not blank, and is not the current directory. -/
def PathName.IsSource (p : PathName) : Prop := Text.strip p.text ≠ "" ∧ p.text ≠ "."

instance (p : PathName) : Decidable p.IsSource := inferInstanceAs (Decidable (_ ∧ _))

structure Context where
  scratchDir : PathName
  sourceFile : PathName
  classPath : String := ""
  encoding : String := "UTF-8"
  debugInfo : Bool := true
  sourceLevel : Option String := none
  targetLevel : Option String := none
  keepGenerated : Bool := true
  /-- Compile only, without installing symbols. -/
  prototype : Bool := false
  smapSuppressed : Bool := false
  extraOptions : List String := []
  deriving DecidableEq, Repr

namespace Context

def model : String := "CompilationContext"

def checkSource (p : PathName) : Schema.Check PathName :=
  if p.IsSource then .ok p else Schema.fail (.value "source_file must not be empty")

def checkEncoding (s : String) : Schema.Check String :=
  if s = "" then Schema.fail (.value "java_encoding must not be empty")
  else match Charset.javaName s with
    | .ok name => .ok name
    | .error e => Schema.fail (.value e.message)

structure Readers (ν : Type) where
  path : ν → Schema.Check PathName
  text : ν → Schema.Check String
  level : ν → Schema.Check (Option String)
  bool : ν → Schema.Check Bool
  texts : ν → Schema.Check (List String)

namespace Readers

/-- The values of documents; their texts lose the white space at the ends. -/
def json : Readers Json where
  path := Schema.path
  text := Schema.trimmed
  level := Schema.optional Schema.trimmed
  bool := Schema.bool
  texts := Schema.list Schema.trimmed

variable {ν : Type} (r : Readers ν)

def source (v : ν) : Schema.Check PathName := do checkSource (← r.path v)

def charset (v : ν) : Schema.Check String := do checkEncoding (← r.text v)

def pathFields : List (Schema.Field Context ν) := [
  { name := "scratch_dir", required := true, store := fun v c => do
      return { c with scratchDir := ← r.path v } },
  { name := "source_file", required := true, store := fun v c => do
      return { c with sourceFile := ← r.source v } }]

def settingFields : List (Schema.Field Context ν) := [
  { name := "class_path", store := fun v c => do
      return { c with classPath := ← r.text v } },
  { name := "java_encoding", store := fun v c => do
      return { c with encoding := ← r.charset v } },
  { name := "class_debug_info", store := fun v c => do
      return { c with debugInfo := ← r.bool v } },
  { name := "compiler_source_vm", store := fun v c => do
      return { c with sourceLevel := ← r.level v } },
  { name := "compiler_target_vm", store := fun v c => do
      return { c with targetLevel := ← r.level v } },
  { name := "keep_generated", store := fun v c => do
      return { c with keepGenerated := ← r.bool v } },
  { name := "prototype_mode", store := fun v c => do
      return { c with prototype := ← r.bool v } },
  { name := "smap_suppressed", store := fun v c => do
      return { c with smapSuppressed := ← r.bool v } },
  { name := "extra_options", store := fun v c => do
      return { c with extraOptions := ← r.texts v } }]

def fields : List (Schema.Field Context ν) := r.pathFields ++ r.settingFields

end Readers

def charset (j : Json) : Schema.Check String := Readers.json.charset j

def pathFields : List (Schema.Field Context) := Readers.json.pathFields

def settingFields : List (Schema.Field Context) := Readers.json.settingFields

def fields : List (Schema.Field Context) := Readers.json.fields

def blank : Context where
  scratchDir := .here
  sourceFile := .here

def create {ν : Type} (r : Readers ν) (members : List (String × ν)) :
    Except Schema.Report Context :=
  Schema.report model (Schema.ofMembers r.fields blank members)

def read (j : Json) : Except Schema.Report Context :=
  Schema.report model (Schema.record model fields blank j)

def ofPaths (scratchDir sourceFile : PathName) (settings : List (String × Json)) :
    Except Schema.Report Context :=
  Schema.report model do
    let (c, issues) := Schema.readFields settings settingFields { scratchDir, sourceFile }
    match Schema.within (.member "source_file") (checkSource sourceFile), issues with
    | .ok _, [] => .ok c
    | .ok _, issues => .error issues
    | .error first, issues => .error (first ++ issues)

def assign (c : Context) (name : String) (value : Json) : Except Schema.Report Context :=
  Schema.report model (Schema.assign fields name value c)

/-- Gives a value to the attribute of a name. One whose name starts with an underscore is kept
beside the fields, whatever its value; any other is a field, which stores the value with the checks
of making. -/
def give {ν : Type} (r : Readers ν) (c : Context) (name : String) (value : ν) :
    Context × Except Schema.Report Unit :=
  if name.toList.head? = some '_' then (c, .ok ())
  else match Schema.assign r.fields name value c with
    | .ok stored => (stored, .ok ())
    | .error issues => (c, .error { model, issues })

end Context
end PageBuild
