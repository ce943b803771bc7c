import Mathlib.Data.List.Nodup
import PageBuild.Proofs.Schema.Fields

/-! Records whose fields are separate: what a field makes of a value is the same for all records and
shows under the name of the field only. A record that was made of members and is then given a value
for a field is the record that is made of the members with that value among them; where the value is
refused, so are these members, for the same reasons. -/
namespace PageBuild.Schema

variable {σ ν α β : Type} {look : σ → String → β} {fields before after : List (Field σ ν)}
  {field : Field σ ν} {members members' : List (String × ν)} {blank record record' r r' stored : σ}
  {name : String} {value : ν} {issues : List Issue}

/-- What a field makes of a value, whatever record that is for: it refuses the value, or it takes
it, and then something shows under its name and nothing else changes. -/
inductive Treats (look : σ → String → β) (field : Field σ ν) (value : ν) : Prop
  | refused {issues : List Issue} (told : issues ≠ [])
    (refuses : ∀ record, field.store value record = .error issues)
  | taken (shown : β) (takes : ∀ record, ∃ stored, field.store value record = .ok stored ∧
      look stored field.name = shown ∧
        ∀ other, other ≠ field.name → look stored other = look record other)

namespace Treats

theorem tells (treats : Treats look field value) (record : σ) :
    Tells (field.store value record) := by
  cases treats with
  | refused told refuses => simpa [Tells, refuses] using told
  | taken shown takes =>
    obtain ⟨stored, took, -⟩ := takes record
    simp [Tells, took]

theorem store_eq_error (treats : Treats look field value)
    (refused : field.store value record = .error issues) (record' : σ) :
    field.store value record' = .error issues := by
  cases treats with
  | refused told refuses =>
    obtain rfl := Except.error.inj ((refuses record).symm.trans refused)
    exact refuses record'
  | taken shown takes =>
    obtain ⟨stored, took, -⟩ := takes record
    cases took.symm.trans refused

theorem exists_store_eq_ok (treats : Treats look field value)
    (took : field.store value record = .ok stored) (record' : σ) :
    ∃ stored', field.store value record' = .ok stored' := by
  cases treats with
  | refused told refuses => cases (refuses record).symm.trans took
  | taken shown takes =>
    obtain ⟨stored', took', -⟩ := takes record'
    exact ⟨stored', took'⟩

theorem look_eq_of_ne (treats : Treats look field value)
    (took : field.store value record = .ok stored) (other : name ≠ field.name) :
    look stored name = look record name := by
  cases treats with
  | refused told refuses => cases (refuses record).symm.trans took
  | taken shown takes =>
    obtain ⟨stored', took', -, kept⟩ := takes record
    obtain rfl := Except.ok.inj (took.symm.trans took')
    exact kept name other

theorem look_eq (treats : Treats look field value) (took : field.store value record = .ok r)
    (took' : field.store value record' = .ok r') : look r field.name = look r' field.name := by
  cases treats with
  | refused told refuses => cases (refuses record).symm.trans took
  | taken shown takes =>
    obtain ⟨s, here, same, -⟩ := takes record
    obtain ⟨s', here', same', -⟩ := takes record'
    obtain rfl := Except.ok.inj (took.symm.trans here)
    obtain rfl := Except.ok.inj (took'.symm.trans here')
    exact same.trans same'.symm

/-- A field that puts what it reads from the value in its own place. -/
theorem of_read {read : ν → Check α} {place : α → σ → σ} (shown : α → β)
    (store : ∀ record, field.store value record = (do return place (← read value) record))
    (tells : Tells (read value))
    (own : ∀ a record, look (place a record) field.name = shown a)
    (others : ∀ a record other, other ≠ field.name →
      look (place a record) other = look record other) : Treats look field value := by
  cases asked : read value with
  | error issues =>
    refine .refused (fun none => tells (asked.trans (none ▸ rfl))) fun record => ?_
    rw [store, asked]
    rfl
  | ok a =>
    refine .taken (shown a) fun record => ⟨place a record, ?_, own a record, others a record⟩
    rw [store, asked]
    rfl

end Treats

structure IsSeparate (look : σ → String → β) (fields : List (Field σ ν)) : Prop where
  distinct : (fields.map (·.name)).Nodup
  treats : ∀ field ∈ fields, ∀ value, Treats look field value

/-- The members have what the field takes, or nothing for a field that asks for nothing. -/
inductive Admits (members : List (String × ν)) (field : Field σ ν) : Prop
  | given {value : ν} {record stored : σ} (found : Json.find? members field.name = some value)
    (takes : field.store value record = .ok stored)
  | absent (none : Json.find? members field.name = none) (optional : field.required = false)

theorem Admits.congr (admits : Admits members field)
    (same : Json.find? members' field.name = Json.find? members field.name) :
    Admits members' field := by
  cases admits with
  | given found takes => exact .given (same.trans found) takes
  | absent none optional => exact .absent (same.trans none) optional

namespace Stores

theorem admits (stores : Stores members fields record r) (member : field ∈ fields) :
    Admits members field := by
  induction stores with
  | nil => cases member
  | given found took later ih =>
    rcases List.mem_cons.mp member with rfl | member
    · exact .given found took
    · exact ih member
  | absent none optional later ih =>
    rcases List.mem_cons.mp member with rfl | member
    · exact .absent none optional
    · exact ih member

theorem readFields_append (stores : Stores members before record r) :
    readFields members (before ++ after) record = readFields members after r := by
  induction stores with
  | nil => rfl
  | given found took later ih =>
    rw [List.cons_append, readFields_of_took found took]
    exact ih
  | absent none optional later ih => simpa [readFields, none, optional] using ih

/-- What no member is given for is as it was. -/
theorem look_of_absent (stores : Stores members fields record r)
    (treats : ∀ field ∈ fields, ∀ value, Treats look field value)
    (absent : ∀ field ∈ fields, field.name = name → Json.find? members name = none) :
    look r name = look record name := by
  induction stores with
  | nil => rfl
  | given found took later ih =>
    rw [List.forall_mem_cons] at treats absent
    refine (ih treats.2 absent.2).trans ((treats.1 _).look_eq_of_ne took ?_)
    rintro rfl
    cases (absent.1 rfl).symm.trans found
  | absent none optional later ih =>
    rw [List.forall_mem_cons] at treats absent
    exact ih treats.2 absent.2

end Stores

/-- Where every field has what it takes, all are stored. -/
theorem exists_stores (treats : ∀ field ∈ fields, ∀ value, Treats look field value)
    (admits : ∀ field ∈ fields, Admits members field) (record : σ) :
    ∃ r, Stores members fields record r := by
  induction fields generalizing record with
  | nil => exact ⟨record, .nil record⟩
  | cons field fields ih =>
    rw [List.forall_mem_cons] at treats admits
    cases admits.1 with
    | given found takes =>
      obtain ⟨stored, took⟩ := (treats.1 _).exists_store_eq_ok takes record
      obtain ⟨r, later⟩ := ih treats.2 admits.2 stored
      exact ⟨r, .given found took later⟩
    | absent none optional =>
      obtain ⟨r, later⟩ := ih treats.2 admits.2 record
      exact ⟨r, .absent none optional later⟩

namespace IsSeparate

theorem stores (separate : IsSeparate look fields)
    (made : ofMembers fields blank members = .ok r) : Stores members fields blank r :=
  stores_of_readFields (fun field member value => (separate.treats field member value).tells)
    (ofMembers_eq_ok_iff.mp made).1

theorem exists_split (separate : IsSeparate look fields) (member : field ∈ fields) :
    ∃ before after, fields = before ++ field :: after ∧
      ∀ other ∈ before ++ after, other.name ≠ field.name := by
  obtain ⟨before, after, rfl⟩ := List.append_of_mem member
  have distinct := separate.distinct
  rw [List.map_append, List.map_cons, List.nodup_middle, List.nodup_cons, ← List.map_append]
    at distinct
  exact ⟨before, after, rfl, fun other here same => distinct.1 (same ▸ List.mem_map_of_mem here)⟩

/-- What shows under the name of a member is what its field takes it for. -/
theorem look_of_given (separate : IsSeparate look fields) (stores : Stores members fields blank r)
    (member : field ∈ fields) (found : Json.find? members field.name = some value)
    (took : field.store value record = .ok stored) :
    look r field.name = look stored field.name := by
  have treats := separate.treats
  obtain ⟨before, after, rfl, apart⟩ := separate.exists_split member
  obtain ⟨middle, next, took', later⟩ := stores.exists_store found
  calc look r field.name = look next field.name := by
        refine later.look_of_absent (fun other here => treats other ?_) fun other here same => ?_
        · exact List.mem_append_right _ (List.mem_cons_of_mem _ here)
        · exact absurd same (apart other (List.mem_append_right _ here))
    _ = look stored field.name := (treats field member value).look_eq took' took

/-- Members that agree on a name make records that agree on it. -/
theorem look_congr (separate : IsSeparate look fields) (stores : Stores members fields blank r)
    (stores' : Stores members' fields blank r')
    (same : Json.find? members' name = Json.find? members name) : look r' name = look r name := by
  by_cases given : ∃ field ∈ fields, field.name = name ∧ Json.find? members name ≠ none
  · obtain ⟨field, member, rfl, given⟩ := given
    cases stores.admits member with
    | absent none => exact absurd none given
    | given found takes =>
      rw [separate.look_of_given stores member found takes,
        separate.look_of_given stores' member (same.trans found) takes]
  · have absent : ∀ field ∈ fields, field.name = name → Json.find? members name = none := by
      intro field member named
      cases found : Json.find? members name with
      | none => rfl
      | some value =>
        exact absurd ⟨field, member, named, by simp [found]⟩ given
    rw [stores.look_of_absent separate.treats absent,
      stores'.look_of_absent separate.treats fun field member named =>
        same.trans (absent field member named)]

/-- Members that made a record still have what all the other fields take. -/
theorem admits_put_of_ne (separate : IsSeparate look fields)
    (made : ofMembers fields blank members = .ok r) {other : Field σ ν} (here : other ∈ fields)
    (apart : other.name ≠ name) : Admits (Json.put members name value) other :=
  ((separate.stores made).admits here).congr (Json.find?_put_other _ _ apart)

theorem extras_put (made : ofMembers fields blank members = .ok r) (member : field ∈ fields)
    (value : ν) : extras fields (Json.put members field.name value) = [] := by
  refine extras_eq_nil_iff.mpr fun m here => ?_
  rcases Json.eq_or_mem_of_mem_put here with rfl | old
  · exact ⟨field, member, rfl⟩
  · exact extras_eq_nil_iff.mp (ofMembers_eq_ok_iff.mp made).2 m old

/-- Storing a value in a record that was made comes to making it with that value. -/
theorem ofMembers_put (separate : IsSeparate look fields) (shows : look.Injective)
    (made : ofMembers fields blank members = .ok r) (member : field ∈ fields)
    (took : field.store value r = .ok stored) :
    ofMembers fields blank (Json.put members field.name value) = .ok stored := by
  have found := Json.find?_put_self members field.name value
  have admits : ∀ other ∈ fields, Admits (Json.put members field.name value) other := by
    intro other here
    by_cases same : other.name = field.name
    · obtain rfl := List.inj_on_of_nodup_map separate.distinct here member same
      exact .given found took
    · exact separate.admits_put_of_ne made here same
  obtain ⟨again, stores⟩ := exists_stores separate.treats admits blank
  have same : again = stored := by
    refine shows (funext fun name => ?_)
    by_cases own : name = field.name
    · subst own
      exact separate.look_of_given stores member found took
    · calc look again name = look r name :=
            separate.look_congr (separate.stores made) stores (Json.find?_put_other _ _ own)
        _ = look stored name := ((separate.treats field member value).look_eq_of_ne took own).symm
  rw [← same]
  exact ofMembers_eq_ok_iff.mpr ⟨stores.readFields_eq, extras_put made member value⟩

/-- A value that a field refuses is refused among members for the same reasons. -/
theorem ofMembers_put_of_refused (separate : IsSeparate look fields)
    (made : ofMembers fields blank members = .ok r) (member : field ∈ fields)
    (refused : field.store value r = .error issues) :
    ofMembers fields blank (Json.put members field.name value) =
      within (.member field.name) (.error issues) := by
  have known := extras_put made member value
  have told := (separate.treats field member value).tells r
  have refuses := (separate.treats field member value).store_eq_error refused
  obtain ⟨before, after, rfl, apart⟩ := separate.exists_split member
  have others {part : List (Field σ ν)} (inside : part ⊆ before ++ after) (start : σ) :
      ∃ r', Stores (Json.put members field.name value) part start r' := by
    have among {other : Field σ ν} (here : other ∈ part) : other ∈ before ++ field :: after :=
      (List.mem_append.mp (inside here)).elim (List.mem_append_left _) fun here =>
        List.mem_append_right _ (List.mem_cons_of_mem _ here)
    exact exists_stores (fun other here => separate.treats other (among here))
      (fun other here => separate.admits_put_of_ne made (among here) (apart other (inside here)))
      start
  obtain ⟨middle, earlier⟩ := others (List.subset_append_left before after) blank
  obtain ⟨r', later⟩ := others (List.subset_append_right before after) middle
  have read := (earlier.readFields_append).trans
    (later.readFields_of_refused (Json.find?_put_self members field.name value) (refuses middle))
  unfold ofMembers
  rw [read]
  dsimp only
  rw [known, List.append_nil]
  cases issues with
  | nil => exact absurd refused told
  | cons first more => rfl

end IsSeparate

end PageBuild.Schema
