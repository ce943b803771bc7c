import PageBuild.Proofs.Context.Making

/-! Assignments to contexts. A context has no check but those of its fields, so what an assignment
leads to is a context that could have been made: a refusal changes nothing, and a value that is
taken stands in its field as if it had been there when the context was made. -/
namespace PageBuild.Context

open Schema

variable {ν : Type} {r : Readers ν} {members : List (String × ν)} {value : ν}
  {field : Schema.Field Context ν} {c : Context} {name : String}

def given (r : Readers ν) (c : Context) : List (String × ν) → Context
  | [] => c
  | (name, value) :: rest => (c.give r name value).1.given r rest

def Asks (r : Readers ν) (c : Context) (assignments : List (String × ν)) (state : Context)
    (name : String) (value : ν) : Prop :=
  ∃ before rest, assignments = before ++ (name, value) :: rest ∧ c.given r before = state

def Reaches (r : Readers ν) (c : Context) (assignments : List (String × ν)) (state : Context) :
    Prop :=
  ∃ before, before <+: assignments ∧ c.given r before = state

/-- What becomes of an assignment to a context that was made of members. A field refuses the value
as it would be refused among the members, or takes it, and then the context is the one that is made
with the value among them. Names of no field are refused or, with an underscore, do not matter. -/
inductive Turns (r : Readers ν) (members : List (String × ν)) (name : String) (value : ν)
    (c : Context) : Context × Except Report Unit → Prop
  | refused {report : Report} (isField : (c.get? name).isSome)
    (alike : create r (Json.put members name value) = .error report)
    (always : ∀ others made, Json.find? others name = some value → create r others ≠ .ok made) :
    Turns r members name value c (c, .error report)
  | stored {stored : Context} (isField : (c.get? name).isSome)
    (alike : create r (Json.put members name value) = .ok stored)
    (always : ∀ others made, Json.find? others name = some value → create r others = .ok made →
      stored.get? name = made.get? name)
    (kept : ∀ other, other ≠ name → stored.get? other = c.get? other) :
    Turns r members name value c (stored, .ok ())
  | unknown (none : c.get? name = none) (plain : name.toList.head? ≠ some '_') :
    Turns r members name value c
      (c, .error { model, issues := [{ kind := .noField name, place := [.member name] }] })
  | beside (none : c.get? name = none) (underscore : name.toList.head? = some '_') :
    Turns r members name value c (c, .ok ())

theorem turns_of_stored (tells : r.IsTelling) (made : create r members = .ok c)
    (member : field ∈ r.fields) {stored : Context} (took : field.store value c = .ok stored) :
    Turns r members field.name value c (stored, .ok ()) := by
  have separate := isSeparate_fields tells
  have treats := separate.treats field member value
  refine .stored (isSome_get? member) ?_ (fun others made' found accepted => ?_)
    fun other apart => ?_
  · exact report_eq_ok_iff.mpr
      (separate.ofMembers_put get?_injective (report_eq_ok_iff.mp made) member took)
  · have stores := separate.stores (report_eq_ok_iff.mp accepted)
    exact (separate.look_of_given stores member found took).symm
  · exact treats.look_eq_of_ne took apart

theorem turns_of_refused (tells : r.IsTelling) (made : create r members = .ok c)
    (member : field ∈ r.fields) {issues : List Issue}
    (refused : field.store value c = .error issues) :
    Turns r members field.name value c
      (c, Schema.report model (within (.member field.name) (.error issues))) := by
  have separate := isSeparate_fields tells
  have treats := separate.treats field member value
  refine .refused (isSome_get? member) ?_ fun others made' found accepted => ?_
  · unfold create
    rw [separate.ofMembers_put_of_refused (report_eq_ok_iff.mp made) member refused]
    rfl
  · have stores := separate.stores (report_eq_ok_iff.mp accepted)
    cases stores.admits member with
    | absent none => cases none.symm.trans found
    | given found' takes =>
      obtain rfl := Option.some.inj (found'.symm.trans found)
      cases (treats.store_eq_error refused _).symm.trans takes

theorem turns_give (tells : r.IsTelling) (made : create r members = .ok c) (name : String)
    (value : ν) : Turns r members name value c (c.give r name value) := by
  have missing (absent : name ∉ r.fields.map (·.name)) : c.get? name = none :=
    get?_eq_none_iff.mpr absent
  unfold give
  split
  · next underscore =>
    exact .beside (missing fun member => head?_ne_underscore member underscore) underscore
  · next plain =>
    unfold Schema.assign
    cases found : r.fields.find? (·.name = name) with
    | none =>
      refine .unknown (missing ?_) plain
      simpa using found
    | some field =>
      have member := List.mem_of_find?_eq_some found
      obtain rfl : field.name = name := by simpa using List.find?_some found
      cases took : field.store value c with
      | ok stored => simpa only [took, within] using turns_of_stored tells made member took
      | error issues =>
        simpa only [took, within, report] using turns_of_refused tells made member took

/-- After an assignment the context is one that members make. -/
theorem Turns.exists_create {turn : Context × Except Report Unit}
    (turns : Turns r members name value c turn) (made : create r members = .ok c) :
    ∃ members', create r members' = .ok turn.1 := by
  cases turns with
  | stored _ alike => exact ⟨_, alike⟩
  | _ => exact ⟨members, made⟩

theorem exists_create_given (tells : r.IsTelling) (made : create r members = .ok c)
    (assignments : List (String × ν)) :
    ∃ members', create r members' = .ok (c.given r assignments) := by
  induction assignments generalizing members c with
  | nil => exact ⟨members, made⟩
  | cons first rest ih =>
    obtain ⟨name, value⟩ := first
    obtain ⟨members', next⟩ := (turns_give tells made name value).exists_create made
    exact ih next

/-- A context that was made of members, in whatever way their values are read, stays one that could
have been made, whatever is assigned to it. An assignment that is refused changes nothing; one that
is taken changes the field of its name alone, which then has what any making with that value gives
it. So every state has a source and an encoding that is known. -/
theorem stays_made_given (tells : r.IsTelling) (made : create r members = .ok c)
    (assignments : List (String × ν)) :
    (∀ state name value, c.Asks r assignments state name value →
      ∃ members', create r members' = .ok state ∧
        Turns r members' name value state (state.give r name value)) ∧
    ∀ state, c.Reaches r assignments state → state.sourceFile.IsSource ∧ state.IsEncoded := by
  constructor
  · rintro _ name value ⟨before, rest, -, rfl⟩
    obtain ⟨members', next⟩ := exists_create_given tells made before
    exact ⟨members', next, turns_give tells next name value⟩
  · rintro _ ⟨before, -, rfl⟩
    obtain ⟨members', next⟩ := exists_create_given tells made before
    have stores := stores_of_create tells next
    exact ⟨isSource_of_stores stores, isEncoded_of_stores stores⟩

def pageMembers : List (String × Json) := [
  ("scratch_dir", .str "out"), ("source_file", .str "A.java")]

def page : Context where
  scratchDir := .ofText "out"
  sourceFile := .ofText "A.java"

def pageAssignments : List (String × Json) := [
  ("source_file", .str " . "), ("java_encoding", .str " latin-1"), ("source", .null),
  ("_seen", .bool true)]

theorem stays_made_given_page :
    Readers.json.IsTelling ∧ create .json pageMembers = .ok page ∧
    (∀ state name value, page.Asks .json pageAssignments state name value →
      ∃ members', create .json members' = .ok state ∧
        Turns .json members' name value state (state.give .json name value)) ∧
    page.given .json pageAssignments = { page with encoding := "ISO-8859-1" } ∧
    page.sourceFile.IsSource ∧ IsEncoded { page with encoding := "ISO-8859-1" } := by
  have made : create .json pageMembers = .ok page := rfl
  obtain ⟨turns, valid⟩ := stays_made_given isTelling_json made pageAssignments
  exact ⟨isTelling_json, made, turns, rfl, valid _ ⟨pageAssignments, List.prefix_rfl, rfl⟩⟩

end PageBuild.Context
