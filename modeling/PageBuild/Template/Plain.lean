import PageBuild.Template

/-! Plain templates: text with numbered places that have no layout. What is in such a template stays
where it is when its places are filled. -/
namespace PageBuild.Template

def IsPlain (c : Char) : Prop := c ≠ '\x7b' ∧ c ≠ '\x7d'

instance (c : Char) : Decidable (IsPlain c) := inferInstanceAs (Decidable (_ ∧ _))

/-- A text is gone through; the characters are not. -/
instance (text : List Char) : Decidable (∀ c ∈ text, IsPlain c) := List.decidableBAll IsPlain text

/-- The text before the first place, and each place with the text after it. Places are numbered by
a single digit. -/
structure Plain where
  lead : List Char
  places : List (Fin 10 × List Char)
  isPlain_lead : ∀ c ∈ lead, IsPlain c := by decide
  isPlain_places : ∀ place ∈ places, ∀ c ∈ place.2, IsPlain c := by decide

namespace Plain

def cut : List Char → List Char × List (Fin 10 × List Char)
  | [] => ([], [])
  | c :: rest =>
    let (lead, places) := cut rest
    if c = '\x7b' then ([], (Fin.ofNat 10 ((lead.headD '0').toNat - 48), lead.drop 2) :: places)
    else (c :: lead, places)

def writePlaces (places : List (Fin 10 × List Char)) : List Char :=
  places.flatMap fun (i, after) => '\x7b' :: Nat.digitChar i :: '\x7d' :: after

def fillPlaces (texts : Fin 10 → List Char) (places : List (Fin 10 × List Char)) : List Char :=
  places.flatMap fun (i, after) => texts i ++ after

def written (t : Plain) : List Char := t.lead ++ writePlaces t.places

def filled (t : Plain) (texts : Fin 10 → List Char) : List Char :=
  t.lead ++ fillPlaces texts t.places

def HasText (known : Lookup) (arguments : List Value) (i : Fin 10) (text : List Char) : Prop :=
  ∃ v, arguments[i.val]? = some v ∧ v.text? known = .ok text

end Plain
end PageBuild.Template
