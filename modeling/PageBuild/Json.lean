import PageBuild.Number.Binary64

/-! JSON documents. The members of an object stand in document order, and a repeated name keeps
its first place and its last value. Whole numbers are exact; a number with a fraction or an
exponent is floating-point. -/
namespace PageBuild

inductive Json
  | null
  | bool (b : Bool)
  | int (n : Int)
  | float (x : Binary64)
  | str (s : String)
  | arr (items : List Json)
  | obj (members : List (String × Json))
  deriving Repr

namespace Json

/-- Puts a value under a name: in the place of an earlier value of that name, else at the end. -/
def put {α : Type} (members : List (String × α)) (name : String) (value : α) :
    List (String × α) :=
  match members with
  | [] => [(name, value)]
  | (n, v) :: rest => if n = name then (n, value) :: rest else (n, v) :: put rest name value

def find? {α : Type} (members : List (String × α)) (name : String) : Option α :=
  match members with
  | [] => none
  | (n, v) :: rest => if n = name then some v else find? rest name

theorem find?_eq_none_iff {α : Type} {members : List (String × α)} {name : String} :
    find? members name = none ↔ name ∉ members.map Prod.fst := by
  induction members with
  | nil => simp [find?]
  | cons member rest ih =>
    by_cases same : member.1 = name
    · simp [find?, same]
    · simp [find?, same, Ne.symm same, ih]

@[simp] theorem find?_put_self {α : Type} (members : List (String × α)) (name : String)
    (value : α) : find? (put members name value) name = some value := by
  induction members with
  | nil => simp [put, find?]
  | cons m rest ih =>
    by_cases h : m.1 = name <;> simp [put, find?, h, ih]

@[simp] theorem find?_put_other {α : Type} (members : List (String × α)) {name other : String}
    (value : α) (h : other ≠ name) :
    find? (put members name value) other = find? members other := by
  induction members with
  | nil => simp [put, find?, h.symm]
  | cons m rest ih =>
    by_cases hn : m.1 = name
    · have : m.1 ≠ other := fun ho => h (ho ▸ hn)
      simp [put, find?, hn, h.symm]
    · by_cases ho : m.1 = other <;> simp [put, find?, hn, ho, h, ih]

theorem eq_or_mem_of_mem_put {α : Type} {members : List (String × α)} {m : String × α}
    {name : String} {value : α} (h : m ∈ put members name value) :
    m = (name, value) ∨ m ∈ members := by
  induction members with
  | nil => exact .inl (List.mem_singleton.mp h)
  | cons first rest ih =>
    rw [put] at h
    split at h
    · next here => exact here ▸ (List.mem_cons.mp h).imp_right (List.mem_cons_of_mem _)
    · rcases List.mem_cons.mp h with rfl | later
      · exact .inr List.mem_cons_self
      · exact (ih later).imp_right (List.mem_cons_of_mem _)

def get? (j : Json) (name : String) : Option Json :=
  match j with
  | .obj members => find? members name
  | _ => none

def text? : Json → Option String
  | .str s => some s
  | _ => none

def items : Json → List Json
  | .arr items => items
  | _ => []

end Json
end PageBuild
