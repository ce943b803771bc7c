/-! Surrogates. A text may hold surrogates that stand alone: the escapes of a document can spell one,
and a byte of a file name that is no character is kept as one. The private characters from U+10D800
to U+10DFFF hold their places, so that a text is a list of characters all the same; a text that is
meant to hold one of these private characters itself cannot be told apart. -/
namespace PageBuild.Text

/-- The character that holds the place of a surrogate. -/
def surrogate (unit : Nat) : Char := Char.ofNat (0x100000 + unit)

def isSurrogate (c : Char) : Bool := 0x10D800 ≤ c.toNat && c.toNat < 0x10E000

/-- The surrogate keeps a byte of a file name. -/
def isByte (c : Char) : Bool := 0x10DC80 ≤ c.toNat && c.toNat < 0x10DD00

def codePoint (c : Char) : Nat := if isSurrogate c then c.toNat - 0x100000 else c.toNat

def byteSize (s : String) : Nat :=
  s.toList.foldr (fun c size => (if isByte c then 1 else c.utf8Size) + size) 0

@[simp] theorem byteSize_append (s t : String) : byteSize (s ++ t) = byteSize s + byteSize t := by
  unfold byteSize
  rw [String.toList_append, List.foldr_append]
  induction s.toList with
  | nil => exact (Nat.zero_add _).symm
  | cons c rest ih => rw [List.foldr_cons, ih, List.foldr_cons, Nat.add_assoc]

def IsEncodable (s : String) : Prop := ∀ c ∈ s.toList, isSurrogate c = false

instance (s : String) : Decidable (IsEncodable s) := List.decidableBAll _ s.toList

@[simp] theorem isEncodable_append {s t : String} :
    IsEncodable (s ++ t) ↔ IsEncodable s ∧ IsEncodable t := by
  unfold IsEncodable
  rw [String.toList_append, List.forall_mem_append]

example : codePoint (surrogate 0xDC80) = 0xDC80 ∧ byteSize "é" = 2 := by decide

end PageBuild.Text
