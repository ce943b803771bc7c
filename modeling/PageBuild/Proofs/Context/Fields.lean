import PageBuild.Context
import PageBuild.Proofs.Schema.Assignment

/-! What contexts hold under the names of their fields. Every field treats values in its own way: it
puts what it reads under its name, or refuses the value with an issue, whatever the context. -/
namespace PageBuild.Context

open Schema

variable {ν : Type} {r : Readers ν} {value : ν} {field : Schema.Field Context ν} {c : Context}
  {name : String}

/-- No reader refuses a value without an issue. -/
structure Readers.IsTelling (r : Readers ν) : Prop where
  path (value : ν) : Tells (r.path value)
  text (value : ν) : Tells (r.text value)
  level (value : ν) : Tells (r.level value)
  bool (value : ν) : Tells (r.bool value)
  texts (value : ν) : Tells (r.texts value)

theorem isTelling_json : Readers.json.IsTelling where
  path := tells_path
  text := tells_trimmed
  level := tells_optional tells_trimmed
  bool := tells_bool
  texts := tells_list tells_trimmed

namespace Readers.IsTelling

theorem source (tells : r.IsTelling) (value : ν) : Tells (r.source value) := by
  refine (tells.path value).bind fun p => ?_
  unfold checkSource
  split
  · exact tells_ok _
  · exact tells_fail _

theorem charset (tells : r.IsTelling) (value : ν) : Tells (r.charset value) := by
  refine (tells.text value).bind fun s => ?_
  unfold checkEncoding
  repeat' split
  all_goals first | exact tells_ok _ | exact tells_fail _

end Readers.IsTelling

inductive Held
  | path (p : PathName)
  | text (s : String)
  | level (level : Option String)
  | bool (b : Bool)
  | texts (list : List String)
  deriving DecidableEq, Repr

def held (c : Context) : List (String × Held) := [
  ("scratch_dir", .path c.scratchDir),
  ("source_file", .path c.sourceFile),
  ("class_path", .text c.classPath),
  ("java_encoding", .text c.encoding),
  ("class_debug_info", .bool c.debugInfo),
  ("compiler_source_vm", .level c.sourceLevel),
  ("compiler_target_vm", .level c.targetLevel),
  ("keep_generated", .bool c.keepGenerated),
  ("prototype_mode", .bool c.prototype),
  ("smap_suppressed", .bool c.smapSuppressed),
  ("extra_options", .texts c.extraOptions)]

def get? (c : Context) (name : String) : Option Held := Json.find? c.held name

theorem get?_injective : get?.Injective := by
  intro c c' same
  have shown (name : String) {h h' : Held} (here : c.get? name = some h)
      (there : c'.get? name = some h') : h = h' :=
    Option.some.inj ((here.symm.trans (congrFun same name)).trans there)
  obtain ⟨⟩ := c
  obtain ⟨⟩ := c'
  rw [Context.mk.injEq]
  exact ⟨Held.path.inj (shown "scratch_dir" rfl rfl), Held.path.inj (shown "source_file" rfl rfl),
    Held.text.inj (shown "class_path" rfl rfl), Held.text.inj (shown "java_encoding" rfl rfl),
    Held.bool.inj (shown "class_debug_info" rfl rfl),
    Held.level.inj (shown "compiler_source_vm" rfl rfl),
    Held.level.inj (shown "compiler_target_vm" rfl rfl),
    Held.bool.inj (shown "keep_generated" rfl rfl), Held.bool.inj (shown "prototype_mode" rfl rfl),
    Held.bool.inj (shown "smap_suppressed" rfl rfl),
    Held.texts.inj (shown "extra_options" rfl rfl)⟩

/-- A field puts what it reads under its name, whatever the context. -/
theorem treats_of_put {α : Type} {read : ν → Check α} {place : α → Context → Context}
    (shown : α → Held)
    (store : ∀ c, field.store value c = (do return place (← read value) c))
    (tells : Tells (read value))
    (puts : ∀ a c, (place a c).held = Json.put c.held field.name (shown a)) :
    Treats get? field value := by
  refine .of_read (fun a => some (shown a)) store tells (fun a c => ?_) fun a c other apart => ?_
  · rw [get?, puts, Json.find?_put_self]
  · rw [get?, puts, Json.find?_put_other _ _ apart]
    rfl

theorem isSeparate_fields (tells : r.IsTelling) : IsSeparate get? r.fields where
  distinct := by
    change ["scratch_dir", "source_file", "class_path", "java_encoding", "class_debug_info",
      "compiler_source_vm", "compiler_target_vm", "keep_generated", "prototype_mode",
      "smap_suppressed", "extra_options"].Nodup
    decide
  treats field member value := by
    simp only [Readers.fields, Readers.pathFields, Readers.settingFields, List.cons_append,
      List.nil_append, List.mem_cons, List.not_mem_nil, or_false] at member
    rcases member with rfl | rfl | rfl | rfl | rfl | rfl | rfl | rfl | rfl | rfl | rfl
    · exact treats_of_put .path (fun _ => rfl) (tells.path value) fun _ _ => rfl
    · exact treats_of_put .path (fun _ => rfl) (tells.source value) fun _ _ => rfl
    · exact treats_of_put .text (fun _ => rfl) (tells.text value) fun _ _ => rfl
    · exact treats_of_put .text (fun _ => rfl) (tells.charset value) fun _ _ => rfl
    · exact treats_of_put .bool (fun _ => rfl) (tells.bool value) fun _ _ => rfl
    · exact treats_of_put .level (fun _ => rfl) (tells.level value) fun _ _ => rfl
    · exact treats_of_put .level (fun _ => rfl) (tells.level value) fun _ _ => rfl
    · exact treats_of_put .bool (fun _ => rfl) (tells.bool value) fun _ _ => rfl
    · exact treats_of_put .bool (fun _ => rfl) (tells.bool value) fun _ _ => rfl
    · exact treats_of_put .bool (fun _ => rfl) (tells.bool value) fun _ _ => rfl
    · exact treats_of_put .texts (fun _ => rfl) (tells.texts value) fun _ _ => rfl

/-- The names of the fields are those of what they hold. -/
theorem get?_eq_none_iff : c.get? name = none ↔ name ∉ r.fields.map (·.name) :=
  Json.find?_eq_none_iff

theorem isSome_get? (member : field ∈ r.fields) : (c.get? field.name).isSome := by
  rw [← Option.ne_none_iff_isSome, Ne, get?_eq_none_iff, not_not]
  exact List.mem_map_of_mem member

theorem head?_ne_underscore (member : name ∈ r.fields.map (·.name)) :
    name.toList.head? ≠ some '_' := by
  have plain : ∀ name ∈ (Readers.fields .json).map (·.name), name.toList.head? ≠ some '_' := by
    decide
  exact plain name member

end PageBuild.Context
