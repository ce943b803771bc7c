import PageBuild.Proofs.Session.Run
import PageBuild.Schema

/-! Records that are read field by field. Where every refusal has an issue, reading a record without
issues means that every field took the value of its member, or that there is no such member and
none is asked for. -/
namespace PageBuild.Schema

variable {σ ν α β : Type} {members : List (String × ν)} {fields : List (Field σ ν)} {record r : σ}

def Tells (c : Check α) : Prop := c ≠ .error []

theorem tells_ok (a : α) : Tells (.ok a) := nofun

theorem tells_fail (kind : IssueKind) : Tells (fail kind : Check α) := nofun

theorem Tells.bind {c : Check α} {f : α → Check β} (hc : Tells c) (hf : ∀ a, Tells (f a)) :
    Tells (c >>= f) := by
  intro failed
  rcases Except.bind_eq_error_iff.mp failed with first | ⟨a, -, second⟩
  · exact hc first
  · exact hf a second

theorem Tells.map {c : Check α} (hc : Tells c) (f : α → β) : Tells (f <$> c) := by
  rw [map_eq_pure_bind]
  exact hc.bind fun a => tells_ok (f a)

theorem Tells.within {c : Check α} (hc : Tells c) (step : Step) : Tells (within step c) := by
  cases c with
  | ok a => exact tells_ok a
  | error issues => simpa [Tells, Schema.within] using hc

theorem tells_text (j : Json) : Tells (text j) := by
  cases j <;> first | exact tells_ok _ | exact tells_fail _

theorem tells_encodable (s : String) : Tells (encodable s) := by
  unfold encodable
  split <;> first | exact tells_ok _ | exact tells_fail _

theorem tells_trimmed (j : Json) : Tells (trimmed j) :=
  (tells_text j).bind fun s => (tells_encodable s).bind fun _ => tells_ok _

theorem tells_path (j : Json) : Tells (path j) := by
  unfold path
  split <;> first | exact tells_ok _ | exact tells_fail _

theorem tells_optional {read : Json → Check α} (h : ∀ j, Tells (read j)) (j : Json) :
    Tells (optional read j) := by
  cases j with
  | null => exact tells_ok _
  | _ => exact (h _).map _

theorem tells_boolOfInt (n low high : Int) : Tells (boolOfInt n low high) := by
  unfold boolOfInt
  repeat' split
  all_goals first | exact tells_ok _ | exact tells_fail _

theorem tells_bool (j : Json) : Tells (bool j) := by
  unfold bool
  split
  · exact tells_ok _
  · exact tells_boolOfInt _ _ _
  · split <;> first | exact tells_boolOfInt _ _ _ | exact tells_fail _
  · refine (tells_encodable _).bind fun s => ?_
    split <;> first | exact tells_ok _ | exact tells_fail _
  · exact tells_fail _

theorem tells_listFrom {read : Json → Check α} (h : ∀ j, Tells (read j)) (items : List Json)
    (index : Nat) : Tells (listFrom read index items) := by
  induction items generalizing index with
  | nil => exact tells_ok _
  | cons item rest ih =>
    have here := (h item).within (.item index)
    have later := ih (index + 1)
    rw [listFrom]
    split
    · exact tells_ok _
    · next issues _ refused => simpa [refused] using later
    · next issues refused _ => simpa [Tells, refused] using here
    · next issues _ refused _ => simp_all [Tells]

theorem tells_list {read : Json → Check α} (h : ∀ j, Tells (read j)) (j : Json) :
    Tells (list read j) := by
  cases j with
  | arr items => exact tells_listFrom h items 0
  | _ => exact tells_fail _

/-- Fields are stored one after the other, each with the value of its member. -/
inductive Stores (members : List (String × ν)) : List (Field σ ν) → σ → σ → Prop
  | nil (record : σ) : Stores members [] record record
  | given {field : Field σ ν} {fields : List (Field σ ν)} {record stored r : σ} {value : ν}
    (found : Json.find? members field.name = some value)
    (stores : field.store value record = .ok stored) (later : Stores members fields stored r) :
    Stores members (field :: fields) record r
  | absent {field : Field σ ν} {fields : List (Field σ ν)} {record r : σ}
    (none : Json.find? members field.name = none) (optional : field.required = false)
    (later : Stores members fields record r) : Stores members (field :: fields) record r

theorem within_eq_ok_iff {step : Step} {c : Check α} {a : α} :
    within step c = .ok a ↔ c = .ok a := by
  cases c <;> simp [within]

theorem stores_of_readFields
    (tells : ∀ field ∈ fields, ∀ value record, Tells (field.store value record))
    (read : readFields members fields record = (r, [])) : Stores members fields record r := by
  induction fields generalizing record with
  | nil =>
    obtain ⟨rfl, -⟩ := Prod.mk.inj read
    exact .nil record
  | cons field fields ih =>
    rw [List.forall_mem_cons] at tells
    rw [readFields] at read
    cases found : Json.find? members field.name with
    | some value =>
      have told := (tells.1 value record).within (.member field.name)
      simp only [found] at read
      split at read
      · next stored took => exact .given found (within_eq_ok_iff.mp took) (ih tells.2 read)
      · next issues refused => simp_all [Tells]
    | none =>
      simp only [found] at read
      by_cases required : field.required = true
      · simp [required, fail, within] at read
      · exact .absent found (by simpa using required) (ih tells.2 (by simpa [required] using read))

theorem readFields_of_took {field : Field σ ν} {value : ν} {stored : σ}
    (found : Json.find? members field.name = some value)
    (took : field.store value record = .ok stored) :
    readFields members (field :: fields) record = readFields members fields stored := by
  simp [readFields, found, took, within]

namespace Stores

theorem readFields_eq (stores : Stores members fields record r) :
    readFields members fields record = (r, []) := by
  induction stores with
  | nil => rfl
  | given found took later ih => exact (readFields_of_took found took).trans ih
  | absent none optional later ih => simpa [readFields, none, optional] using ih

/-- What every field keeps is kept. -/
theorem keeps {P : σ → Prop} (stores : Stores members fields record r)
    (step : ∀ field ∈ fields, ∀ value record stored,
      field.store value record = .ok stored → P record → P stored) (h : P record) : P r := by
  induction stores with
  | nil => exact h
  | given found stored later ih =>
    rw [List.forall_mem_cons] at step
    exact ih step.2 (step.1 _ _ _ stored h)
  | absent none optional later ih =>
    rw [List.forall_mem_cons] at step
    exact ih step.2 h

theorem exists_of_append {first second : List (Field σ ν)}
    (stores : Stores members (first ++ second) record r) :
    ∃ stored, Stores members first record stored ∧ Stores members second stored r := by
  induction first generalizing record with
  | nil => exact ⟨record, .nil record, stores⟩
  | cons field first ih =>
    cases stores with
    | given found stored later =>
      obtain ⟨middle, before, after⟩ := ih later
      exact ⟨middle, .given found stored before, after⟩
    | absent none optional later =>
      obtain ⟨middle, before, after⟩ := ih later
      exact ⟨middle, .absent none optional before, after⟩

/-- The field of a member was stored, between those before and those after it. -/
theorem exists_store {before after : List (Field σ ν)} {field : Field σ ν} {value : ν}
    (stores : Stores members (before ++ field :: after) record r)
    (found : Json.find? members field.name = some value) :
    ∃ middle stored, field.store value middle = .ok stored ∧ Stores members after stored r := by
  obtain ⟨middle, -, rest⟩ := stores.exists_of_append
  cases rest with
  | given other took later =>
    obtain rfl := Option.some.inj (other.symm.trans found)
    exact ⟨middle, _, took, later⟩
  | absent none => simp [none] at found

/-- Where one field alone refuses its value, its issues are the only ones. -/
theorem readFields_of_refused {field : Field σ ν} {value : ν} {issues : List Issue}
    (found : Json.find? members field.name = some value)
    (refused : field.store value record = .error issues) (later : Stores members fields record r) :
    readFields members (field :: fields) record =
      (r, issues.map fun issue => { issue with place := .member field.name :: issue.place }) := by
  simp [readFields, found, refused, within, later.readFields_eq]

end Stores

/-- A field that must be there was stored. -/
theorem exists_store_of_required {field : Field σ ν} (required : field.required = true)
    (stores : Stores members (field :: fields) record r) :
    ∃ value stored, Json.find? members field.name = some value ∧
      field.store value record = .ok stored ∧ Stores members fields stored r := by
  cases stores with
  | given found stored later => exact ⟨_, _, found, stored, later⟩
  | absent none optional later => simp [required] at optional

/-! What a record and its report are, where nothing is wrong. -/

theorem report_eq_ok_iff {model : String} {c : Check α} {a : α} :
    report model c = .ok a ↔ c = .ok a := by
  cases c <;> simp [report]

theorem assign_eq_ok_iff {name : String} {value : ν} {stored : σ} :
    assign fields name value record = .ok stored ↔
      ∃ field, fields.find? (·.name = name) = some field ∧
        field.store value record = .ok stored := by
  unfold assign
  cases fields.find? (·.name = name) <;> simp [within_eq_ok_iff, fail]

theorem extras_eq_nil_iff :
    extras fields members = [] ↔ ∀ m ∈ members, ∃ field ∈ fields, field.name = m.1 := by
  simp [extras, List.filterMap_eq_nil_iff]

/-- Members make a record if the fields take them, and there are no others. -/
theorem ofMembers_eq_ok_iff : ofMembers fields record members = .ok r ↔
    readFields members fields record = (r, []) ∧ extras fields members = [] := by
  unfold ofMembers
  obtain ⟨stored, issues⟩ := readFields members fields record
  cases issues <;> cases extras fields members <;> simp

theorem bind_pure_of_ok {c : Check α} {a : α} (f : α → β) (h : c = .ok a) :
    (do return f (← c) : Check β) = .ok (f a) := by
  rw [h]
  rfl

theorem exists_of_bind_pure {c : Check α} {f : α → β} {b : β}
    (h : (do return f (← c) : Check β) = .ok b) : ∃ a, c = .ok a ∧ f a = b := by
  obtain ⟨a, first, hpure⟩ := Except.bind_eq_ok_iff.mp h
  exact ⟨a, first, Except.ok.inj hpure⟩

end PageBuild.Schema
