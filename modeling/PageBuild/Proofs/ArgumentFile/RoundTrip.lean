import PageBuild.ArgumentFile.Reader

/-! Argument files read back. Inside a rendered file a backslash always stands before a backslash or
a quote, so no escape can bring a line break into a token; a line break that an argument holds
therefore never comes back, and everything else does. -/
namespace PageBuild.ArgumentFile

open Text (OneLine oneLine_append)

theorem isLineBreak_eq_false_iff {c : Char} : isLineBreak c = false ↔ c ≠ '\n' ∧ c ≠ '\r' := by
  simp [isLineBreak]

/-- The two ways in which a character is written inside quotes. -/
theorem escapeChar_cases (c : Char) :
    ((c = '\\' ∨ c = '"') ∧ escapeChar c = ['\\', c]) ∨
      (c ≠ '\\' ∧ c ≠ '"' ∧ escapeChar c = [c]) := by
  by_cases hb : c = '\\'
  · exact .inl ⟨.inl hb, by simp [escapeChar, hb]⟩
  · by_cases hq : c = '"'
    · exact .inl ⟨.inr hq, by simp [escapeChar, hq]⟩
    · exact .inr ⟨hb, hq, by simp [escapeChar, hb, hq]⟩

namespace Reading

/-- Inside double quotes a character is read back, however it was written. -/
theorem tokens_escapeChar {c : Char} (h : isLineBreak c = false) (read rest : List Char) :
    (token read (some '"')).tokens (escapeChar c ++ rest) =
      (token (read ++ [c]) (some '"')).tokens rest := by
  rcases escapeChar_cases c with ⟨rfl | rfl, he⟩ | ⟨hb, hq, he⟩
  · rfl
  · rfl
  · simp [he, tokens, step, quoted, h, hb, hq]

theorem tokens_flatMap_escapeChar {argument : List Char} (h : OneLine argument)
    (read rest : List Char) :
    (token read (some '"')).tokens (argument.flatMap escapeChar ++ rest) =
      (token (read ++ argument) (some '"')).tokens rest := by
  induction argument generalizing read with
  | nil => simp
  | cons c argument ih =>
    have hc : isLineBreak c = false := isLineBreak_eq_false_iff.mpr (h c List.mem_cons_self)
    have hrest : OneLine argument := fun x hx => h x (List.mem_cons_of_mem _ hx)
    rw [List.flatMap_cons, List.append_assoc, tokens_escapeChar hc, ih hrest]
    simp

/-- The line of an argument on one line is one token. -/
theorem tokens_quote {argument : List Char} (h : OneLine argument) (rest : List Char) :
    between.tokens (quote argument ++ '\n' :: rest) = argument :: between.tokens rest := by
  have opened : between.tokens (quote argument ++ '\n' :: rest) =
      (token [] (some '"')).tokens (argument.flatMap escapeChar ++ '"' :: '\n' :: rest) := by
    simp [quote, tokens, step, bare, isSeparator, isLineBreak]
  rw [opened, tokens_flatMap_escapeChar h]
  simp [tokens, step, quoted, bare, isSeparator, isLineBreak]

theorem tokens_lines {arguments : List (List Char)} (h : ∀ a ∈ arguments, OneLine a) :
    between.tokens (arguments.flatMap fun a => quote a ++ ['\n']) = arguments := by
  induction arguments with
  | nil => rfl
  | cons a arguments ih =>
    have := tokens_quote (h a List.mem_cons_self) (arguments.flatMap fun a => quote a ++ ['\n'])
    simp only [List.flatMap_cons, List.append_assoc, List.cons_append, List.nil_append]
    rw [this, ih fun x hx => h x (List.mem_cons_of_mem _ hx)]

theorem tokens_render {arguments : List (List Char)} (h : ∀ a ∈ arguments, OneLine a) :
    between.tokens (render arguments) = arguments := by
  by_cases hne : arguments = []
  · subst hne; rfl
  · rw [render_eq_flatMap hne, tokens_lines h]

/-- Nothing is waiting for its other half, and what was read is on one line. -/
def Settled : Reading → Prop
  | between | comment => True
  | token read _ => OneLine read
  | escape .. | continued .. => False

/-- Reading goes on without ever handing out a token with a line break. -/
def Safe (s : List Char) (r : Reading) : Prop := ∀ t ∈ r.tokens s, OneLine t

/-- From any settled reading, a text leads to a settled one and hands out no line break. It is
stated for all that may follow, so that texts can be put together. -/
def Harmless (s : List Char) : Prop :=
  ∀ r : Reading, r.Settled → ∀ rest, (∀ next : Reading, next.Settled → next.Safe rest) →
    r.Safe (s ++ rest)

theorem Harmless.nil : Harmless [] := fun r hr _ hrest => hrest r hr

theorem Harmless.append {s t : List Char} (hs : Harmless s) (ht : Harmless t) :
    Harmless (s ++ t) := by
  intro r hr rest hrest
  rw [List.append_assoc]
  exact hs r hr _ fun next hnext => ht next hnext rest hrest

theorem Harmless.flatMap {α : Type} {f : α → List Char} {l : List α}
    (h : ∀ a ∈ l, Harmless (f a)) : Harmless (l.flatMap f) := by
  induction l with
  | nil => exact .nil
  | cons a l ih =>
    rw [List.flatMap_cons]
    exact (h a List.mem_cons_self).append (ih fun x hx => h x (List.mem_cons_of_mem _ hx))

theorem safe_cons {r : Reading} {c : Char} {rest : List Char}
    (hout : ∀ t ∈ (r.step c).2, OneLine t) (hrest : (r.step c).1.Safe rest) :
    r.Safe (c :: rest) := by
  intro t ht
  simp only [tokens, List.mem_append, Option.mem_toList] at ht
  exact ht.elim (hout t) (hrest t)

theorem oneLine_push {read : List Char} {c : Char} (hread : OneLine read)
    (hc : isLineBreak c = false) : OneLine (read ++ [c]) :=
  oneLine_append.mpr ⟨hread, by simpa using isLineBreak_eq_false_iff.mp hc⟩

theorem settled_bare {read : List Char} (hread : OneLine read) (c : Char) :
    (bare read c).1.Settled ∧ ∀ t ∈ (bare read c).2, OneLine t := by
  unfold bare
  split
  · simpa [Settled] using hread
  · next hsep =>
    split
    · simpa [Settled] using hread
    · have hc : isLineBreak c = false := by
        simp only [isSeparator, Bool.or_eq_true, not_or, Bool.not_eq_true] at hsep
        exact hsep.2
      simpa [Settled] using oneLine_push hread hc

theorem settled_quoted {read : List Char} (hread : OneLine read) (quote : Char) {c : Char}
    (hc : c ≠ '\\') :
    (quoted read quote c).1.Settled ∧ ∀ t ∈ (quoted read quote c).2, OneLine t := by
  simp only [quoted, if_neg hc]
  split
  · simpa [Settled] using hread
  · next hbreak =>
    split
    · simpa [Settled] using hread
    · simpa [Settled] using oneLine_push hread (by simpa using hbreak)

/-- Only a backslash inside quotes unsettles a reading. -/
theorem settled_step {r : Reading} (hr : r.Settled) {c : Char}
    (hc : c ≠ '\\' ∨ ∀ read quote, r ≠ token read (some quote)) :
    (r.step c).1.Settled ∧ ∀ t ∈ (r.step c).2, OneLine t := by
  cases r with
  | between =>
    simp only [step]
    split
    · simp [Settled]
    · split
      · simp [Settled]
      · exact settled_bare Text.oneLine_nil c
  | comment => by_cases hb : isLineBreak c <;> simp [step, Settled, hb]
  | token read quote? =>
    cases quote? with
    | none => exact settled_bare hr c
    | some quote => exact settled_quoted hr quote (hc.resolve_right fun h => h read quote rfl)
  | escape => exact hr.elim
  | continued => exact hr.elim

theorem harmless_singleton {c : Char} (hc : c ≠ '\\') : Harmless [c] := by
  intro r hr rest hrest
  obtain ⟨hnext, hout⟩ := settled_step hr (.inl hc)
  exact safe_cons hout (hrest _ hnext)

/-- A backslash and what it escapes are harmless also where the quotes have lost their pairing: in
quotes of either sort they are one character, outside they are two. -/
theorem harmless_escape {c : Char} (hc : c = '\\' ∨ c = '"') : Harmless ['\\', c] := by
  intro r hr rest hrest
  have outside {next : Reading} (hstep : r.step '\\' = (next, none)) (hnext : next.Settled)
      (hopen : ∀ read quote, next ≠ token read (some quote)) :
      r.Safe (['\\', c] ++ rest) := by
    obtain ⟨hlast, hout⟩ := settled_step hnext (c := c) (.inr hopen)
    exact safe_cons (by simp [hstep]) (hstep ▸ safe_cons hout (hrest _ hlast))
  cases r with
  | between => exact outside rfl (by simp [Settled]) (by simp)
  | comment => exact outside (show comment.step '\\' = (comment, none) from rfl) trivial (by simp)
  | token read quote? =>
    cases quote? with
    | none => exact outside rfl (oneLine_push hr rfl) (by simp)
    | some quote =>
      have escaped : (token read (some quote)).tokens ('\\' :: c :: rest) =
          (token (read ++ [c]) (some quote)).tokens rest := by
        rcases hc with rfl | rfl <;> rfl
      have hbreak : isLineBreak c = false := by rcases hc with rfl | rfl <;> rfl
      intro t ht
      exact hrest (token (read ++ [c]) (some quote)) (oneLine_push hr hbreak) t (escaped ▸ ht)
  | escape => exact hr.elim
  | continued => exact hr.elim

theorem harmless_escapeChar (c : Char) : Harmless (escapeChar c) := by
  rcases escapeChar_cases c with ⟨hc, he⟩ | ⟨hb, -, he⟩
  · exact he ▸ harmless_escape hc
  · exact he ▸ harmless_singleton hb

theorem harmless_quote (argument : List Char) : Harmless (quote argument) :=
  (harmless_singleton (by decide)).append
    ((Harmless.flatMap fun c _ => harmless_escapeChar c).append (harmless_singleton (by decide)))

theorem harmless_render (arguments : List (List Char)) : Harmless (render arguments) := by
  by_cases hne : arguments = []
  · subst hne
    exact harmless_singleton (by decide)
  · rw [render_eq_flatMap hne]
    exact .flatMap fun a _ => (harmless_quote a).append (harmless_singleton (by decide))

/-- No token of a rendered file holds a line break, whatever the arguments hold. -/
theorem oneLine_of_mem_tokens {arguments : List (List Char)} {t : List Char}
    (h : t ∈ between.tokens (render arguments)) : OneLine t := by
  have atEnd : ∀ r : Reading, r.Settled → r.Safe [] := by
    intro r hr t ht
    cases r with
    | between | comment => simp [tokens, last?] at ht
    | token read quote? =>
      have : t = read := by simpa [tokens, last?] using ht
      exact this ▸ hr
    | escape | continued => exact hr.elim
  have safe := harmless_render arguments between trivial [] atEnd
  rw [List.append_nil] at safe
  exact safe t h

end Reading

/-- A list of arguments is read back from its file exactly if none of them holds a line break. -/
theorem read_text_eq_self_iff (arguments : List String) :
    read (text arguments) = arguments ↔
      ∀ a ∈ arguments, OneLine a.toList := by
  have tokens_eq : read (text arguments) =
      (Reading.between.tokens (render (arguments.map String.toList))).map String.ofList := by
    simp [read, text]
  rw [tokens_eq]
  constructor
  · intro h a ha
    rw [← h] at ha
    obtain ⟨t, ht, rfl⟩ := List.mem_map.mp ha
    rw [String.toList_ofList]
    exact Reading.oneLine_of_mem_tokens ht
  · intro h
    have lines : ∀ t ∈ arguments.map String.toList, OneLine t := by
      intro t ht
      obtain ⟨a, ha, rfl⟩ := List.mem_map.mp ht
      exact h a ha
    rw [Reading.tokens_render lines, List.map_map]
    simp [Function.comp_def]

example : read (text ["", "#a b", "\\\"\\", "@'"]) = ["", "#a b", "\\\"\\", "@'"] := by decide

end PageBuild.ArgumentFile
