import Mathlib.Data.List.TakeWhile
import PageBuild.Template.Plain

/-! Templates of simple parts: text, braces that are written twice, and places that say a number,
take the next one or have a name, without attributes, conversions and layouts. Such a template is
filled part by part; if it is not, an argument is missing or has no text, and nothing else is wrong.
Plain templates are simple. -/
namespace PageBuild.Template

inductive Part
  | plain (c : Char)
  | openBrace
  | closeBrace
  | numbered (digits : List Char)
  | next
  | named (name : List Char)
  deriving DecidableEq, Repr

namespace Part

def written : Part → List Char
  | .plain c => [c]
  | .openBrace => ['\x7b', '\x7b']
  | .closeBrace => ['\x7d', '\x7d']
  | .numbered digits => '\x7b' :: digits ++ ['\x7d']
  | .next => ['\x7b', '\x7d']
  | .named name => '\x7b' :: name ++ ['\x7d']

def marks : List Char := ['\x7b', '\x7d', '!', ':', '[', '.']

/-- Text without braces, numbers that are not too large, and names that are no numbers. -/
def IsSound : Part → Prop
  | .plain c => IsPlain c
  | .numbered digits => digits ≠ [] ∧ digits.all Text.isDigit = true ∧
    Text.natOfDigits digits < digitLimit
  | .named name => (∀ c ∈ name, c ∉ marks) ∧ name.all Text.isDigit = false
  | _ => True

/-- A name is gone through; the characters are not. -/
instance (name : List Char) : Decidable (∀ c ∈ name, c ∉ marks) := List.decidableBAll _ name

instance : (p : Part) → Decidable p.IsSound
  | .plain c => inferInstanceAs (Decidable (IsPlain c))
  | .numbered digits => inferInstanceAs (Decidable (digits ≠ [] ∧
    digits.all Text.isDigit = true ∧ Text.natOfDigits digits < digitLimit))
  | .named name => inferInstanceAs (Decidable ((∀ c ∈ name, c ∉ marks) ∧
    name.all Text.isDigit = false))
  | .openBrace | .closeBrace | .next => .isTrue trivial

def isNumbered : Part → Bool
  | .numbered _ => true
  | _ => false

end Part

/-- Parts of which no place says its number, or none takes the next one. -/
structure Simple where
  parts : List Part
  sound : ∀ p ∈ parts, p.IsSound
  oneWay : (∀ p ∈ parts, p.isNumbered = false) ∨ .next ∉ parts

namespace Simple

def write (parts : List Part) : List Char := parts.flatMap Part.written

def written (t : Simple) : List Char := write t.parts

def textAt (known : Lookup) (arguments : List Value) (i : Nat) : Except Fault (List Char) :=
  match arguments[i]? with
  | none => .error .missing
  | some v => v.text? known

/-- The parts with their places filled, after so many that took the next argument. There is never an
argument for a name. -/
def fillParts (known : Lookup) (arguments : List Value) :
    (taken : Nat) → List Part → Except Fault (List Char)
  | _, [] => .ok []
  | taken, .plain c :: rest => (c :: ·) <$> fillParts known arguments taken rest
  | taken, .openBrace :: rest => ('\x7b' :: ·) <$> fillParts known arguments taken rest
  | taken, .closeBrace :: rest => ('\x7d' :: ·) <$> fillParts known arguments taken rest
  | taken, .numbered digits :: rest => do
    let shown ← textAt known arguments (Text.natOfDigits digits)
    (shown ++ ·) <$> fillParts known arguments taken rest
  | taken, .next :: rest => do
    let shown ← textAt known arguments taken
    (shown ++ ·) <$> fillParts known arguments (taken + 1) rest
  | _, .named _ :: _ => .error .missing

variable {known : Lookup} {arguments : List Value} {parts : List Part} {numbering : Numbering}
  {taken fuel : Nat} {c : Char} {s name rest : List Char} {fault : Fault}
  {expand : Numbering → List Char → Except Fault (List Char × Numbering)}

/-- The numbering so far, before parts of which no place says its number or none takes the next
one. -/
inductive Suits : Numbering → (taken : Nat) → List Part → Prop
  | unsettled {parts : List Part}
    (oneWay : (∀ p ∈ parts, p.isNumbered = false) ∨ .next ∉ parts) : Suits .unsettled 0 parts
  | automatic {taken : Nat} {parts : List Part} (unsaid : ∀ p ∈ parts, p.isNumbered = false) :
    Suits (.automatic taken) taken parts
  | manual {taken : Nat} {parts : List Part} (said : .next ∉ parts) : Suits .manual taken parts

theorem Suits.tail {p : Part} (h : Suits numbering taken (p :: parts)) :
    Suits numbering taken parts := by
  cases h with
  | unsettled oneWay =>
    exact .unsettled (oneWay.imp (fun unsaid q member => unsaid q (List.mem_cons_of_mem p member))
      (mt (List.mem_cons_of_mem p)))
  | automatic unsaid => exact .automatic fun q member => unsaid q (List.mem_cons_of_mem p member)
  | manual said => exact .manual (mt (List.mem_cons_of_mem p) said)

/-- A place that says its number settles the numbering, and none after it takes the next one. -/
theorem Suits.numbered {digits : List Char}
    (h : Suits numbering taken (.numbered digits :: parts)) :
    (numbering = .unsettled ∨ numbering = .manual) ∧ Suits .manual taken parts := by
  have isNumbered : (Part.numbered digits).isNumbered ≠ false := by simp [Part.isNumbered]
  cases h with
  | unsettled oneWay =>
    rcases oneWay with unsaid | said
    · exact absurd (unsaid _ List.mem_cons_self) isNumbered
    · exact ⟨.inl rfl, .manual (mt (List.mem_cons_of_mem _) said)⟩
  | automatic unsaid => exact absurd (unsaid _ List.mem_cons_self) isNumbered
  | manual said => exact ⟨.inr rfl, .manual (mt (List.mem_cons_of_mem _) said)⟩

/-- A place that takes the next argument settles it, too, and none after it says its number. -/
theorem Suits.next (h : Suits numbering taken (.next :: parts)) :
    (numbering = .unsettled ∧ taken = 0 ∨ numbering = .automatic taken) ∧
      Suits (.automatic (taken + 1)) (taken + 1) parts := by
  cases h with
  | unsettled oneWay =>
    rcases oneWay with unsaid | said
    · exact ⟨.inl ⟨rfl, rfl⟩, .automatic fun q member => unsaid q (List.mem_cons_of_mem _ member)⟩
    · exact absurd List.mem_cons_self said
  | automatic unsaid =>
    exact ⟨.inr rfl, .automatic fun q member => unsaid q (List.mem_cons_of_mem _ member)⟩
  | manual said => exact absurd List.mem_cons_self said

theorem mapError_ok {α β γ : Type} (f : α → β) (a : γ) :
    (.ok a : Except α γ).mapError f = .ok a := rfl

/-- A character that stands for itself is kept. -/
theorem fillWith_cons (plain : IsPlain c) :
    fillWith known arguments expand (fuel + 1) numbering (c :: s) =
      (fun r => (c :: r.1, r.2)) <$> fillWith known arguments expand (fuel + 1) numbering s := by
  have whole : (c :: s).takeWhile (fun c => c ≠ '\x7b' && c ≠ '\x7d') =
      c :: s.takeWhile fun c => c ≠ '\x7b' && c ≠ '\x7d' :=
    List.takeWhile_cons_of_pos (by simpa [IsPlain] using plain)
  conv => lhs; unfold fillWith
  conv => rhs; unfold fillWith
  dsimp only
  rw [whole, List.length_cons, List.drop_succ_cons]
  generalize s.takeWhile (fun c => c ≠ '\x7b' && c ≠ '\x7d') = front
  generalize s.drop front.length = rest
  split
  · rfl
  · simp only [map_bind, map_pure, List.cons_append]
  · simp only [map_bind, map_pure, List.cons_append]
  · split
    · rfl
    · simp only [map_bind, map_pure, List.cons_append, apply_ite (Functor.map _)]
  · rfl

def IsBare (name : List Char) : Prop := ∀ c ∈ name, c ∉ Part.marks

theorem isBare_nil : IsBare [] := nofun

theorem isBare_of_isDigit (digits : name.all Text.isDigit = true) : IsBare name := by
  have noDigits : Part.marks.all (fun c => !Text.isDigit c) = true := by decide
  intro c member mark
  have digit := List.all_eq_true.mp digits c member
  have noDigit := List.all_eq_true.mp noDigits c mark
  simp [digit] at noDigit

theorem takeName_of_isBare (bare : IsBare name) (read : List Char) :
    takeName false read (name ++ '\x7d' :: rest) = .ok (read.reverse ++ name, '\x7d', rest) := by
  induction name generalizing read with
  | nil => simp [takeName]
  | cons c name ih =>
    obtain ⟨free, bare⟩ := List.forall_mem_cons.mp bare
    simp only [Part.marks, List.mem_cons, List.not_mem_nil, or_false, not_or] at free
    rw [List.cons_append, takeName]
    simp [free, ih bare]

theorem takePlace_of_isBare (bare : IsBare name) :
    takePlace (name ++ '\x7d' :: rest) = .ok (⟨name, none, []⟩, rest) := by
  simp [takePlace, takeName_of_isBare bare, bind, Except.bind, pure, Except.pure]

theorem takeWhile_of_isBare (bare : IsBare name) :
    name.takeWhile (fun c => c ≠ '.' && c ≠ '[') = name := by
  rw [List.takeWhile_eq_self_iff]
  intro c member
  have free := bare c member
  simp only [Part.marks, List.mem_cons, List.not_mem_nil, or_false, not_or] at free
  simp [free]

/-- A place with a bare name shows the text of its argument. -/
theorem fillWith_place (bare : IsBare name) :
    fillWith known arguments expand (fuel + 1) numbering ('\x7b' :: (name ++ '\x7d' :: rest)) = (do
      let (v, numbering) ← argument known arguments numbering name
      let shown ← v.text? known
      let (more, numbering) ← fillWith known arguments expand fuel numbering rest
      return (shown ++ more, numbering)) := by
  have text (v : Value) : v.render known [] = v.text? known := rfl
  have place : takePlace (name ++ '\x7d' :: rest) = .ok (⟨name, none, []⟩, rest) :=
    takePlace_of_isBare bare
  conv => lhs; unfold fillWith
  dsimp only
  rw [List.takeWhile_cons_of_neg (by simp)]
  cases name with
  | nil =>
    simp [place, mapError_ok, convert, text, bind, Except.bind, pure, Except.pure] at place ⊢
  | cons c name =>
    have noBrace : c ≠ '\x7b' := by
      rintro rfl
      exact bare _ List.mem_cons_self (by decide)
    simp [place, noBrace, mapError_ok, convert, text, bind, Except.bind, pure,
      Except.pure] at place ⊢

theorem fillWith_openBrace :
    fillWith known arguments expand (fuel + 1) numbering ('\x7b' :: '\x7b' :: rest) =
      (fun r => ('\x7b' :: r.1, r.2)) <$> fillWith known arguments expand fuel numbering rest := by
  conv => lhs; unfold fillWith
  simp

theorem fillWith_closeBrace :
    fillWith known arguments expand (fuel + 1) numbering ('\x7d' :: '\x7d' :: rest) =
      (fun r => ('\x7d' :: r.1, r.2)) <$> fillWith known arguments expand fuel numbering rest := by
  conv => lhs; unfold fillWith
  simp

/-! The arguments that places take. -/

theorem index?_digits (nonempty : name ≠ []) (digits : name.all Text.isDigit = true)
    (small : Text.natOfDigits name < digitLimit) :
    index? name = .ok (some (Text.natOfDigits name)) := by
  simp [index?, nonempty, digits, small]

theorem argument_numbered (suits : numbering = .unsettled ∨ numbering = .manual)
    (nonempty : name ≠ []) (digits : name.all Text.isDigit = true)
    (small : Text.natOfDigits name < digitLimit) :
    argument known arguments numbering name = match arguments[Text.natOfDigits name]? with
      | none => .error .missing
      | some v => .ok (v, .manual) := by
  have first := takeWhile_of_isBare (isBare_of_isDigit digits)
  have index := index?_digits nonempty digits small
  unfold argument
  rw [first]
  dsimp only
  rw [index]
  rcases suits with rfl | rfl <;> cases given : arguments[Text.natOfDigits name]? <;>
    simp [given, follow, mapError_ok, bind, Except.bind, pure, Except.pure, throw, throwThe,
      MonadExceptOf.throw]

theorem argument_next (suits : numbering = .unsettled ∧ taken = 0 ∨ numbering = .automatic taken) :
    argument known arguments numbering [] = match arguments[taken]? with
      | none => .error .missing
      | some v => .ok (v, .automatic (taken + 1)) := by
  unfold argument
  rcases suits with ⟨rfl, rfl⟩ | rfl
  · cases given : arguments[0]? <;>
    simp [given, index?, follow, mapError_ok, bind, Except.bind, pure, Except.pure, throw,
      throwThe, MonadExceptOf.throw]
  · cases given : arguments[taken]? <;>
    simp [given, index?, follow, mapError_ok, bind, Except.bind, pure, Except.pure, throw,
      throwThe, MonadExceptOf.throw]

theorem argument_named (bare : IsBare name) (named : name.all Text.isDigit = false) :
    argument known arguments numbering name = .error .missing := by
  have first := takeWhile_of_isBare bare
  have nonempty : name ≠ [] := by
    rintro rfl
    cases named
  have index : index? name = .ok none := by
    simp [index?, named]
  unfold argument
  rw [first]
  dsimp only
  rw [index]
  cases numbering <;>
  simp [nonempty, mapError_ok, bind, Except.bind, pure, Except.pure, throw, throwThe,
    MonadExceptOf.throw]

/-- A place is filled by the text of its argument, and the rest goes on from it. -/
theorem fillWith_argument (bare : IsBare name) {i : Nat} {numbering' : Numbering}
    (found : argument known arguments numbering name = match arguments[i]? with
      | none => .error .missing
      | some v => .ok (v, numbering')) :
    Prod.fst <$> fillWith known arguments expand (fuel + 1) numbering
      ('\x7b' :: (name ++ '\x7d' :: rest)) = (do
        let shown ← textAt known arguments i
        (shown ++ ·) <$> Prod.fst <$> fillWith known arguments expand fuel numbering' rest) := by
  rw [fillWith_place bare, found, textAt]
  cases given : arguments[i]? with
  | none => rfl
  | some v =>
    cases shown : v.text? known with
    | error fault => simp [shown, bind, Except.bind, Functor.map, Except.map]
    | ok text =>
      cases more : fillWith known arguments expand fuel numbering' rest <;>
        simp [shown, more, bind, Except.bind, pure, Except.pure, Functor.map, Except.map]

theorem fillWith_parts (sound : ∀ p ∈ parts, p.IsSound) (suits : Suits numbering taken parts)
    (enough : parts.length < fuel) :
    Prod.fst <$> fillWith known arguments expand fuel numbering (write parts) =
      fillParts known arguments taken parts := by
  induction parts generalizing numbering taken fuel with
  | nil =>
    obtain ⟨fuel, rfl⟩ := Nat.exists_eq_add_one.mpr enough
    rfl
  | cons p parts ih =>
    obtain ⟨fuel, rfl⟩ := Nat.exists_eq_add_one.mpr (Nat.zero_lt_of_lt enough)
    obtain ⟨here, sounds⟩ := List.forall_mem_cons.mp sound
    have enough' : parts.length < fuel := Nat.lt_of_succ_lt_succ enough
    have tail := suits.tail
    -- A character takes no fuel, since it is read together with the text after it; any other part
    -- takes one step, and a place may settle the numbering for the rest.
    cases p with
    | plain c =>
      rw [write, List.flatMap_cons, Part.written, List.singleton_append, fillWith_cons here,
        fillParts, ← ih sounds tail (Nat.lt_succ_of_lt enough')]
      simp only [Functor.map_map, write]
    | openBrace =>
      have opened : write (.openBrace :: parts) = '\x7b' :: '\x7b' :: write parts := rfl
      rw [opened, fillWith_openBrace, fillParts, ← ih sounds tail enough']
      simp only [Functor.map_map]
    | closeBrace =>
      have opened : write (.closeBrace :: parts) = '\x7d' :: '\x7d' :: write parts := rfl
      rw [opened, fillWith_closeBrace, fillParts, ← ih sounds tail enough']
      simp only [Functor.map_map]
    | numbered digits =>
      obtain ⟨nonempty, all, small⟩ := here
      obtain ⟨said, manual⟩ := suits.numbered
      have opened : write (.numbered digits :: parts) =
          '\x7b' :: (digits ++ '\x7d' :: write parts) := by simp [write, Part.written]
      rw [opened, fillWith_argument (isBare_of_isDigit all)
        (argument_numbered said nonempty all small), ih sounds manual enough', fillParts]
    | next =>
      obtain ⟨unsaid, automatic⟩ := suits.next
      have opened : write (.next :: parts) = '\x7b' :: ([] ++ '\x7d' :: write parts) := rfl
      rw [opened, fillWith_argument isBare_nil (argument_next unsaid),
        ih sounds automatic enough', fillParts]
    | named name =>
      have opened : write (.named name :: parts) = '\x7b' :: (name ++ '\x7d' :: write parts) := by
        simp [write, Part.written]
      rw [opened, fillWith_place here.1, argument_named here.1 here.2]
      rfl

theorem length_parts_le (parts : List Part) : parts.length ≤ (write parts).length := by
  induction parts with
  | nil => exact Nat.zero_le _
  | cons p parts ih =>
    have one : 1 ≤ p.written.length := by cases p <;> simp [Part.written]
    simp only [write, List.flatMap_cons, List.length_append, List.length_cons] at ih ⊢
    omega

def filled (t : Simple) (known : Lookup) (arguments : List Value) : Except Fault String :=
  String.ofList <$> fillParts known arguments 0 t.parts

theorem fill_written (t : Simple) (known : Lookup) (arguments : List Value) :
    fill known (String.ofList t.written) arguments = t.filled known arguments := by
  have run : Prod.fst <$> fillTo known arguments 2 .unsettled t.written =
      fillParts known arguments 0 t.parts :=
    fillWith_parts t.sound (.unsettled t.oneWay) (Nat.lt_succ_of_le (length_parts_le t.parts))
  rw [filled, ← run, fill, String.toList_ofList]
  cases fillTo known arguments 2 .unsettled t.written <;> rfl

theorem fault_of_textAt {i : Nat} (failed : textAt known arguments i = .error fault) :
    fault = .missing ∨ ∃ v ∈ arguments, v.text? known = .error fault := by
  unfold textAt at failed
  split at failed
  · exact .inl (Except.error.inj failed).symm
  · next v given => exact .inr ⟨v, List.mem_of_getElem? given, failed⟩

theorem eq_of_map_eq_error {α β : Type} {f : α → β} {x : Except Fault α}
    (failed : f <$> x = .error fault) : x = .error fault := by
  cases x with
  | ok a => cases failed
  | error e =>
    obtain rfl : e = fault := Except.error.inj failed
    rfl

/-- Where parts are not filled, an argument is missing or has no text. -/
theorem fault_of_fillParts (failed : fillParts known arguments taken parts = .error fault) :
    fault = .missing ∨ ∃ v ∈ arguments, v.text? known = .error fault := by
  induction parts generalizing taken with
  | nil => cases failed
  | cons p parts ih =>
    have place {i taken : Nat} (failed : (do
        let shown ← textAt known arguments i
        (shown ++ ·) <$> fillParts known arguments taken parts) = .error fault) :
        fault = .missing ∨ ∃ v ∈ arguments, v.text? known = .error fault := by
      cases shown : textAt known arguments i with
      | ok s =>
        rw [shown] at failed
        exact ih (eq_of_map_eq_error failed)
      | error e =>
        rw [shown] at failed
        exact fault_of_textAt (shown.trans failed)
    cases p with
    | plain | openBrace | closeBrace => exact ih (eq_of_map_eq_error failed)
    | numbered | next => exact place failed
    | named => exact .inl (Except.error.inj failed).symm

theorem fault_of_filled {t : Simple} (failed : t.filled known arguments = .error fault) :
    fault = .missing ∨ ∃ v ∈ arguments, v.text? known = .error fault :=
  fault_of_fillParts (eq_of_map_eq_error failed)

end Simple

theorem exists_mistake_of_text? {v : Value} {fault : Fault}
    (failed : v.text? .plain = .error fault) : ∃ m, fault = .mistake m := by
  cases v with
  | int n =>
    simp only [Value.text?] at failed
    split at failed
    · exact ⟨_, (Except.error.inj failed).symm⟩
    · cases failed
  | _ => cases failed

namespace Plain

open Simple

variable {known : Lookup} {arguments : List Value} {texts : Fin 10 → List Char}

def placeParts (places : List (Fin 10 × List Char)) : List Part :=
  places.flatMap fun (i, after) => .numbered [Nat.digitChar i] :: after.map .plain

theorem mem_placeParts {places : List (Fin 10 × List Char)} {p : Part} (h : p ∈ placeParts places) :
    (∃ i : Fin 10, p = .numbered [Nat.digitChar i]) ∨
      ∃ place ∈ places, ∃ c ∈ place.2, p = .plain c := by
  obtain ⟨place, member, h⟩ := List.mem_flatMap.mp h
  rcases List.mem_cons.mp h with rfl | h
  · exact .inl ⟨place.1, rfl⟩
  · obtain ⟨c, inside, rfl⟩ := List.mem_map.mp h
    exact .inr ⟨place, member, c, inside, rfl⟩

def simple (t : Plain) : Simple where
  parts := t.lead.map .plain ++ placeParts t.places
  sound := by
    have digit : ∀ i : Fin 10, (Part.numbered [Nat.digitChar i]).IsSound := by decide
    intro p member
    rcases List.mem_append.mp member with lead | later
    · obtain ⟨c, inside, rfl⟩ := List.mem_map.mp lead
      exact t.isPlain_lead c inside
    · rcases mem_placeParts later with ⟨i, rfl⟩ | ⟨place, among, c, inside, rfl⟩
      · exact digit i
      · exact t.isPlain_places place among c inside
  oneWay := by
    refine .inr fun member => ?_
    rcases List.mem_append.mp member with lead | later
    · obtain ⟨c, -, plain⟩ := List.mem_map.mp lead
      cases plain
    · rcases mem_placeParts later with ⟨i, numbered⟩ | ⟨_, -, c, -, plain⟩
      · cases numbered
      · cases plain

theorem write_plain (s : List Char) (parts : List Part) :
    write (s.map .plain ++ parts) = s ++ write parts := by
  induction s with
  | nil => rfl
  | cons c s ih => simpa [write, Part.written] using ih

theorem fillParts_plain (s : List Char) (parts : List Part) :
    fillParts known arguments 0 (s.map .plain ++ parts) =
      (s ++ ·) <$> fillParts known arguments 0 parts := by
  induction s with
  | nil => simp
  | cons c s ih => simp [fillParts, ih]

theorem write_placeParts (places : List (Fin 10 × List Char)) :
    write (placeParts places) = writePlaces places := by
  induction places with
  | nil => rfl
  | cons place places ih =>
    have first : write (placeParts (place :: places)) = '\x7b' :: Nat.digitChar place.1 :: '\x7d' ::
        write (place.2.map .plain ++ placeParts places) := rfl
    rw [first, write_plain, ih]
    rfl

theorem natOfDigits_digitChar (i : Fin 10) : Text.natOfDigits [Nat.digitChar i] = i.val := by
  revert i
  decide

theorem fillParts_placeParts {places : List (Fin 10 × List Char)}
    (given : ∀ place ∈ places, HasText known arguments place.1 (texts place.1)) :
    fillParts known arguments 0 (placeParts places) = .ok (fillPlaces texts places) := by
  induction places with
  | nil => rfl
  | cons place places ih =>
    obtain ⟨⟨v, found, text⟩, given⟩ := List.forall_mem_cons.mp given
    have shown : textAt known arguments (Text.natOfDigits [Nat.digitChar place.1]) =
        .ok (texts place.1) := by
      simp only [textAt, natOfDigits_digitChar, found, text]
    have first : fillParts known arguments 0 (placeParts (place :: places)) = (do
        let shown ← textAt known arguments (Text.natOfDigits [Nat.digitChar place.1])
        (shown ++ ·) <$>
          fillParts known arguments 0 (place.2.map .plain ++ placeParts places)) := rfl
    rw [first, shown, fillParts_plain, ih given]
    simp [fillPlaces, bind, Except.bind, Functor.map, Except.map]

theorem written_simple (t : Plain) : t.simple.written = t.written := by
  rw [Simple.written, simple, write_plain, write_placeParts, written]

/-- A plain template can be filled if the arguments that it names have texts. -/
theorem fill_written (t : Plain)
    (given : ∀ place ∈ t.places, HasText known arguments place.1 (texts place.1)) :
    fill known (String.ofList t.written) arguments = .ok (String.ofList (t.filled texts)) := by
  rw [← written_simple, Simple.fill_written, Simple.filled, simple, fillParts_plain,
    fillParts_placeParts given]
  rfl

/-- A plain template fails as the argument of its first place does. -/
theorem fill_of_fault (t : Plain) {place : Fin 10 × List Char} {rest : List (Fin 10 × List Char)}
    {v : Value} {fault : Fault} (first : t.places = place :: rest)
    (given : arguments[place.1.val]? = some v) (silent : v.text? known = .error fault) :
    fill known (String.ofList t.written) arguments = .error fault := by
  have failed : textAt known arguments (Text.natOfDigits [Nat.digitChar place.1]) =
      .error fault := by
    simp only [textAt, natOfDigits_digitChar, given, silent]
  have places : fillParts known arguments 0 (placeParts t.places) = .error fault := by
    rw [first, placeParts, List.flatMap_cons, List.cons_append, fillParts, failed]
    rfl
  rw [← written_simple, Simple.fill_written, Simple.filled, simple, fillParts_plain, places]
  rfl

/-- A plain template that cannot be filled misses an argument, or an argument has no text. -/
theorem fault_of_fill (t : Plain) {fault : Fault}
    (failed : fill .plain (String.ofList t.written) arguments = .error fault) :
    fault = .missing ∨ ∃ m, fault = .mistake m := by
  rw [← written_simple, Simple.fill_written] at failed
  exact (fault_of_filled failed).imp_right fun ⟨_, _, text⟩ => exists_mistake_of_text? text

end Plain
end PageBuild.Template
