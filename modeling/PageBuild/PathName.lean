import PageBuild.Text.Lines

/-! Path names in normal form: what anchors the path, and its parts. Repeated slashes, parts that
are a single dot and a trailing slash leave no trace; a part that is two dots stays. Two leading
slashes are an anchor of their own, and any other number of them is the root. -/
namespace PageBuild

inductive Anchor
  | relative
  | root
  | doubleRoot
  deriving DecidableEq, Repr

def Anchor.text : Anchor → String
  | .relative => ""
  | .root => "/"
  | .doubleRoot => "//"

def IsPart (s : String) : Prop := s ≠ "" ∧ s ≠ "." ∧ '/' ∉ s.toList

instance (s : String) : Decidable (IsPart s) := inferInstanceAs (Decidable (_ ∧ _ ∧ _))

structure PathName where
  anchor : Anchor
  parts : List String
  isPart : ∀ part ∈ parts, IsPart part
  deriving DecidableEq, Repr

namespace PathName

def here : PathName := ⟨.relative, [], by simp⟩

/-- What the leading slashes of a text anchor it to. -/
def anchorOf (s : List Char) : Anchor :=
  match (s.takeWhile (· = '/')).length with
  | 0 => .relative
  | 2 => .doubleRoot
  | _ => .root

theorem splitOn_no_separator (sep : Char) (s : List Char) :
    ∀ field ∈ Text.splitOn sep s, sep ∉ field := by
  induction s with
  | nil => simp [Text.splitOn]
  | cons c rest ih =>
    intro field hf
    simp only [Text.splitOn] at hf
    split at hf
    · rcases List.mem_cons.mp hf with rfl | h
      · simp
      · exact ih field h
    · next hc =>
      split at hf
      · simp only [List.mem_singleton] at hf
        subst hf
        simpa using Ne.symm hc
      · next first more heq =>
        rcases List.mem_cons.mp hf with rfl | h
        · have := ih first (heq ▸ List.mem_cons_self)
          simp only [List.mem_cons, not_or]
          exact ⟨Ne.symm hc, this⟩
        · exact ih field (heq ▸ List.mem_cons_of_mem _ h)

def partsOf (s : List Char) : List String :=
  ((Text.splitOn '/' s).map String.ofList).filter fun part => part ≠ "" && part ≠ "."

theorem isPart_of_mem_partsOf {s : List Char} {part : String} (h : part ∈ partsOf s) :
    IsPart part := by
  simp only [partsOf, List.mem_filter, List.mem_map, Bool.and_eq_true, decide_eq_true_eq] at h
  obtain ⟨⟨field, hf, rfl⟩, hne, hdot⟩ := h
  refine ⟨hne, hdot, ?_⟩
  simpa using splitOn_no_separator '/' s field hf

/-- The normal form of a path text. -/
def ofText (s : String) : PathName :=
  ⟨anchorOf s.toList, partsOf s.toList, fun _ h => isPart_of_mem_partsOf h⟩

/-- The text of a path; without parts a relative path is the current directory. -/
def text (p : PathName) : String :=
  if p.anchor = .relative && p.parts.isEmpty then "."
  else p.anchor.text ++ Text.join "/" p.parts

/-- The second path seen from the first; an anchored path stands for itself. -/
def join (p q : PathName) : PathName :=
  if q.anchor = .relative then
    ⟨p.anchor, p.parts ++ q.parts, fun part h =>
      (List.mem_append.mp h).elim (p.isPart part) (q.isPart part)⟩
  else q

def ofTexts (texts : List String) : PathName :=
  texts.foldl (fun p s => p.join (ofText s)) here

/-- The path without its last part; without parts, the path itself. -/
def parent (p : PathName) : PathName :=
  ⟨p.anchor, p.parts.dropLast, fun part h => p.isPart part ((List.dropLast_sublist _).subset h)⟩

/-- The last part, empty if there is none. -/
def name (p : PathName) : String := p.parts.getLast?.getD ""

/-- The name of a path is taken from its text. -/
theorem name_ofText_subset (s : String) : (ofText s).name.toList ⊆ s.toList := by
  unfold name
  cases h : (ofText s).parts.getLast? with
  | none => simp
  | some part =>
    have mem : part ∈ partsOf s.toList := List.mem_of_getLast? h
    simp only [partsOf, List.mem_filter, List.mem_map] at mem
    obtain ⟨⟨field, hfield, rfl⟩, -⟩ := mem
    simpa using Text.subset_of_mem_splitOn hfield

/-- A name without its suffix. The suffix runs from the last dot, unless that is the first or the
last character. -/
def stem (name : List Char) : List Char :=
  let tail := (name.reverse.takeWhile (· ≠ '.')).length
  let dot := name.length - tail - 1
  if name.contains '.' && 0 < tail && 0 < dot then name.take dot else name

def IsSuffix (s : String) : Prop := 2 ≤ s.toList.length ∧ '/' ∉ s.toList

instance (s : String) : Decidable (IsSuffix s) := inferInstanceAs (Decidable (_ ∧ _))

theorem isPart_stem_append {name suffix : String} (hn : '/' ∉ name.toList)
    (hs : IsSuffix suffix) : IsPart (String.ofList (stem name.toList) ++ suffix) := by
  have hlen : 2 ≤ (String.ofList (stem name.toList) ++ suffix).toList.length := by
    simp only [String.toList_append, List.length_append]
    have := hs.1
    omega
  refine ⟨fun h => ?_, fun h => ?_, ?_⟩
  · rw [h] at hlen; simp at hlen
  · rw [h] at hlen; simp at hlen
  · simp only [String.toList_append, String.toList_ofList, List.mem_append, not_or]
    refine ⟨fun h => hn ?_, hs.2⟩
    simp only [stem] at h
    split at h
    · exact List.mem_of_mem_take h
    · exact h

def withSuffix? (p : PathName) (suffix : String) (h : IsSuffix suffix := by decide) :
    Option PathName :=
  match hp : p.parts.getLast? with
  | none => none
  | some last =>
    some ⟨p.anchor, p.parts.dropLast ++ [String.ofList (stem last.toList) ++ suffix], by
      intro part hm
      rcases List.mem_append.mp hm with hd | hl
      · exact p.isPart part ((List.dropLast_sublist _).subset hd)
      · rw [List.mem_singleton.mp hl]
        exact isPart_stem_append (p.isPart last (List.mem_of_getLast? hp)).2.2 h⟩

example : (ofText ".//gen/./A.java/").text = "gen/A.java" := by decide
example : (ofText "///a").text = "/a" ∧ (ofText "//a").text = "//a" := by decide
example : ((ofText "a/C.class").withSuffix? ".class.smap").map text = some "a/C.class.smap" := by
  decide

end PathName
end PageBuild
