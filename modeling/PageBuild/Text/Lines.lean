import PageBuild.Text.Blank

/-! Lines and separated fields. `lines` ends a line at every line end and takes CR LF as one;
`splitOn` and `fieldsBy` cut at every occurrence of a separator. -/
namespace PageBuild.Text

/-- The lines of a text, without their ends. A final line end opens no further line. -/
def lines : List Char → List (List Char)
  | [] => []
  | '\r' :: '\n' :: rest => [] :: lines rest
  | c :: rest =>
    if isLineEnd c then [] :: lines rest
    else match lines rest with
      | [] => [[c]]
      | line :: more => (c :: line) :: more

def Unbroken (s : List Char) : Prop := ∀ c ∈ s, isLineEnd c = false

instance (s : List Char) : Decidable (Unbroken s) := List.decidableBAll _ s

@[simp] theorem unbroken_nil : Unbroken [] := by simp [Unbroken]

@[simp] theorem unbroken_cons {c : Char} {s : List Char} :
    Unbroken (c :: s) ↔ isLineEnd c = false ∧ Unbroken s :=
  List.forall_mem_cons

@[simp] theorem unbroken_append {s t : List Char} : Unbroken (s ++ t) ↔ Unbroken s ∧ Unbroken t :=
  List.forall_mem_append

theorem lines_append_cons {line : List Char} (h : Unbroken line) (rest : List Char) :
    lines (line ++ '\n' :: rest) = line :: lines rest := by
  induction line with
  | nil => simp [lines, show isLineEnd '\n' = true by decide]
  | cons c line ih =>
    obtain ⟨hc, hline⟩ := unbroken_cons.mp h
    rw [List.cons_append, lines]
    · simp [hc, ih hline]
    · rintro more rfl
      exact absurd hc (by decide)

theorem lines_ne_nil {s : List Char} (h : s ≠ []) : lines s ≠ [] := by
  fun_cases lines s with
  | case1 => contradiction
  | _ => simp

theorem lines_cons {c : Char} {rest : List Char}
    (alone : ∀ more, c = '\r' → rest = '\n' :: more → False) :
    lines (c :: rest) =
      if isLineEnd c then [] :: lines rest
      else match lines rest with
        | [] => [[c]]
        | line :: more => (c :: line) :: more := by
  rw [lines]
  exact alone

/-- A line feed behind a character that ends no line closes the last line. -/
theorem lines_append_newline {s : List Char} (ne : s ≠ [])
    (h : ∀ c ∈ s.getLast?, isLineEnd c = false) (t : List Char) :
    lines (s ++ '\n' :: t) = lines s ++ lines t := by
  have apart {c d : Char} {rest : List Char}
      (alone : ∀ more, c = '\r' → d :: rest = '\n' :: more → False) :
      ∀ more, c = '\r' → d :: rest ++ '\n' :: t = '\n' :: more → False := by
    simpa using fun hc hd => alone rest hc (by rw [hd])
  induction s using lines.induct with
  | case1 => contradiction
  | case2 rest ih =>
    cases rest with
    | nil => exact absurd (h '\n' rfl) (by decide)
    | cons c rest => simpa [lines] using ih (by simp) (by simpa using h)
  | case3 c rest alone ends ih =>
    cases rest with
    | nil => simp [h c rfl] at ends
    | cons d rest =>
      have tail := ih (by simp) (by simpa using h)
      rw [List.cons_append, lines_cons (apart alone), lines_cons alone, if_pos ends, if_pos ends,
        tail, List.cons_append]
  | case4 c rest alone plain whole ih =>
    cases rest with
    | nil =>
      have unbroken : Unbroken [c] := by simpa using h c rfl
      rw [lines_append_cons unbroken, lines_cons alone, if_neg plain, whole, List.singleton_append]
    | cons d rest => exact absurd whole (lines_ne_nil (by simp))
  | case5 c rest alone plain line more whole ih =>
    cases rest with
    | nil => cases whole
    | cons d rest =>
      have tail := ih (by simp) (by simpa using h)
      rw [List.cons_append, lines_cons (apart alone), lines_cons alone, if_neg plain, if_neg plain,
        tail, whole]
      rfl

/-- Lines that are followed by a line feed each are found again in front of the rest. -/
theorem lines_flatMap_append {items : List (List Char)} (h : ∀ line ∈ items, Unbroken line)
    (rest : List Char) : lines (items.flatMap (· ++ ['\n']) ++ rest) = items ++ lines rest := by
  induction items with
  | nil => rfl
  | cons line items ih =>
    have tail := ih fun line hline => h line (List.mem_cons_of_mem _ hline)
    rw [List.flatMap_cons, List.append_assoc, List.append_assoc, List.singleton_append,
      lines_append_cons (h line List.mem_cons_self), tail, List.cons_append]

theorem lines_flatMap {items : List (List Char)} (h : ∀ line ∈ items, Unbroken line) :
    lines (items.flatMap (· ++ ['\n'])) = items := by
  simpa [lines] using lines_flatMap_append h []

def OneLine (s : List Char) : Prop := ∀ c ∈ s, c ≠ '\n' ∧ c ≠ '\r'

instance (s : List Char) : Decidable (OneLine s) := List.decidableBAll _ s

@[simp] theorem oneLine_nil : OneLine [] := by simp [OneLine]

@[simp] theorem oneLine_cons {c : Char} {s : List Char} :
    OneLine (c :: s) ↔ (c ≠ '\n' ∧ c ≠ '\r') ∧ OneLine s := by
  simp [OneLine]

@[simp] theorem oneLine_append {s t : List Char} : OneLine (s ++ t) ↔ OneLine s ∧ OneLine t :=
  List.forall_mem_append

theorem OneLine.of_subset {s t : List Char} (h : OneLine t) (hs : s ⊆ t) : OneLine s :=
  fun c hc => h c (hs hc)

/-- CR LF and a lone CR are read as LF. -/
def unifyLineEnds : List Char → List Char
  | [] => []
  | '\r' :: '\n' :: rest => '\n' :: unifyLineEnds rest
  | c :: rest => (if c = '\r' then '\n' else c) :: unifyLineEnds rest

theorem unifyLineEnds_eq_self {s : List Char} (h : '\r' ∉ s) : unifyLineEnds s = s := by
  induction s with
  | nil => rfl
  | cons c s ih =>
    simp only [List.mem_cons, not_or] at h
    rw [unifyLineEnds, ih h.2, if_neg (Ne.symm h.1)]
    rintro rest rfl
    exact absurd rfl h.1

def after? : (p s : List Char) → Option (List Char)
  | [], s => some s
  | _ :: _, [] => none
  | a :: p, c :: s => if a = c then after? p s else none

@[simp] theorem after?_append (p s : List Char) : after? p (p ++ s) = some s := by
  induction p with
  | nil => rfl
  | cons a p ih => simp [after?, ih]

theorem eq_append_of_after? {p s r : List Char} (h : after? p s = some r) : s = p ++ r := by
  induction p generalizing s with
  | nil => simpa [after?] using h
  | cons a p ih =>
    cases s with
    | nil => simp [after?] at h
    | cons c s =>
      simp only [after?] at h
      split at h
      · next hac => rw [hac, ih h]; rfl
      · simp at h

theorem after?_eq_some_iff {p s rest : List Char} : after? p s = some rest ↔ s = p ++ rest := by
  refine ⟨eq_append_of_after?, ?_⟩
  rintro rfl
  exact after?_append p rest

/-- The fields between the occurrences of one character; there is always at least one. -/
def splitOn (sep : Char) : List Char → List (List Char)
  | [] => [[]]
  | c :: rest =>
    if c = sep then [] :: splitOn sep rest
    else match splitOn sep rest with
      | [] => [[c]]
      | field :: more => (c :: field) :: more

theorem subset_of_mem_splitOn {sep : Char} {s field : List Char} (h : field ∈ splitOn sep s) :
    field ⊆ s := by
  induction s generalizing field with
  | nil => simp_all [splitOn]
  | cons c s ih =>
    simp only [splitOn] at h
    split at h
    · rcases List.mem_cons.mp h with rfl | h
      · exact List.nil_subset _
      · exact List.Subset.trans (ih h) (List.subset_cons_self c s)
    · split at h
      · simp_all
      · next first more heq =>
        rcases List.mem_cons.mp h with rfl | h
        · exact List.cons_subset_cons c (ih (heq ▸ List.mem_cons_self))
        · exact List.Subset.trans (ih (heq ▸ List.mem_cons_of_mem _ h)) (List.subset_cons_self c s)

theorem splitOn_append_cons {sep : Char} {field : List Char} (h : sep ∉ field)
    (rest : List Char) : splitOn sep (field ++ sep :: rest) = field :: splitOn sep rest := by
  induction field with
  | nil => simp [splitOn]
  | cons c field ih =>
    simp only [List.mem_cons, not_or] at h
    simp [splitOn, ih h.2, Ne.symm h.1]

theorem splitOn_of_notMem {sep : Char} {s : List Char} (h : sep ∉ s) : splitOn sep s = [s] := by
  induction s with
  | nil => rfl
  | cons c rest ih =>
    simp only [List.mem_cons, not_or] at h
    simp [splitOn, ih h.2, Ne.symm h.1]

theorem splitOn_ne_nil (sep : Char) (s : List Char) : splitOn sep s ≠ [] := by
  fun_cases splitOn sep s <;> simp

/-- A separator ends the fields of what stands before it. -/
theorem splitOn_append_separator (sep : Char) (s t : List Char) :
    splitOn sep (s ++ sep :: t) = splitOn sep s ++ splitOn sep t := by
  induction s with
  | nil => simp [splitOn]
  | cons c s ih =>
    rw [List.cons_append, splitOn, splitOn, ih]
    split
    · rfl
    · cases fields : splitOn sep s with
      | nil => exact absurd fields (splitOn_ne_nil sep s)
      | cons field more => rfl

/-- Fields without separators are found again if each is followed by one; then an empty field
comes last. -/
theorem splitOn_flatMap {sep : Char} {fields : List (List Char)} (h : ∀ f ∈ fields, sep ∉ f) :
    splitOn sep (fields.flatMap (· ++ [sep])) = fields ++ [[]] := by
  induction fields with
  | nil => rfl
  | cons field fields ih =>
    have tail := ih fun f hf => h f (List.mem_cons_of_mem _ hf)
    rw [List.flatMap_cons, List.append_assoc, List.singleton_append,
      splitOn_append_cons (h field List.mem_cons_self), tail, List.cons_append]

/-- The fields between the occurrences of a separator of any length, found from the left; `skip`
counts the characters of the current separator that are still to be passed. -/
def fieldsBy (sep : List Char) : (skip : Nat) → List Char → List (List Char)
  | _, [] => [[]]
  | skip + 1, _ :: rest => fieldsBy sep skip rest
  | 0, c :: rest =>
    if sep.isPrefixOf (c :: rest) then [] :: fieldsBy sep (sep.length - 1) rest
    else match fieldsBy sep 0 rest with
      | [] => [[c]]
      | field :: more => (c :: field) :: more

/-- A separator of one character cuts where that character stands. -/
theorem fieldsBy_singleton (sep : Char) (s : List Char) : fieldsBy [sep] 0 s = splitOn sep s := by
  induction s with
  | nil => rfl
  | cons c rest ih =>
    by_cases h : sep = c
    · simp [fieldsBy, splitOn, h, h ▸ ih]
    · simp [fieldsBy, splitOn, h, Ne.symm h, ih]

def join (sep : String) (items : List String) : String :=
  String.ofList (List.intercalate sep.toList (items.map String.toList))

theorem intercalate_cons {sep first : List Char} {rest : List (List Char)} (h : rest ≠ []) :
    List.intercalate sep (first :: rest) = first ++ (sep ++ List.intercalate sep rest) := by
  obtain ⟨next, more, rfl⟩ := List.exists_cons_of_ne_nil h
  simp [List.intercalate]

theorem splitOn_intercalate {sep : Char} {fields : List (List Char)} (ne : fields ≠ [])
    (h : ∀ field ∈ fields, sep ∉ field) : splitOn sep (List.intercalate [sep] fields) = fields := by
  induction fields with
  | nil => contradiction
  | cons field rest ih =>
    obtain ⟨here, later⟩ := List.forall_mem_cons.mp h
    by_cases last : rest = []
    · subst last
      simpa [List.intercalate] using splitOn_of_notMem here
    · rw [intercalate_cons last, List.singleton_append, splitOn_append_cons here, ih last later]

/-- A character of a joined text is from the separator or from a field. -/
theorem exists_of_mem_intercalate {sep : List Char} {fields : List (List Char)} {c : Char}
    (apart : c ∉ sep) (h : c ∈ List.intercalate sep fields) : ∃ field ∈ fields, c ∈ field := by
  induction fields with
  | nil => simp [List.intercalate] at h
  | cons field rest ih =>
    by_cases last : rest = []
    · subst last
      exact ⟨field, List.mem_cons_self, by simpa [List.intercalate] using h⟩
    · rw [intercalate_cons last, List.mem_append, List.mem_append] at h
      rcases h with here | cut | later
      · exact ⟨field, List.mem_cons_self, here⟩
      · exact absurd cut apart
      · obtain ⟨other, member, found⟩ := ih later
        exact ⟨other, List.mem_cons_of_mem _ member, found⟩

theorem subset_intercalate (sep : List Char) {field : List Char} {fields : List (List Char)}
    (h : field ∈ fields) : field ⊆ List.intercalate sep fields := by
  obtain ⟨before, later, rfl⟩ := List.append_of_mem h
  clear h
  induction before with
  | nil =>
    by_cases last : later = []
    · subst last
      simp [List.intercalate]
    · rw [List.nil_append, intercalate_cons last]
      exact List.subset_append_left _ _
  | cons first before ih =>
    rw [List.cons_append, intercalate_cons (by simp)]
    exact List.subset_append_of_subset_right _ (List.subset_append_of_subset_right _ ih)

/-- The fields of a text with the separator between them are the text. -/
theorem intercalate_splitOn (sep : Char) (s : List Char) :
    List.intercalate [sep] (splitOn sep s) = s := by
  induction s with
  | nil => rfl
  | cons c rest ih =>
    rw [splitOn]
    split
    · next same => rw [intercalate_cons (splitOn_ne_nil sep rest), ih, same]; rfl
    · split
      · next none => exact absurd none (splitOn_ne_nil sep rest)
      · next field more found =>
        rw [found] at ih
        cases more with
        | nil => simpa [List.intercalate] using ih
        | cons next more =>
          rw [intercalate_cons (by simp)] at ih ⊢
          rw [List.cons_append, ih]

/-- A joined text ends as its last field does. -/
theorem exists_intercalate_eq_append (sep : List Char) {fields : List (List Char)}
    (ne : fields ≠ []) : ∃ before, List.intercalate sep fields = before ++ fields.getLast ne := by
  induction fields with
  | nil => contradiction
  | cons field rest ih =>
    by_cases last : rest = []
    · subst last
      exact ⟨[], by simp [List.intercalate]⟩
    · obtain ⟨before, ends⟩ := ih last
      refine ⟨field ++ (sep ++ before), ?_⟩
      rw [intercalate_cons last, ends, List.getLast_cons last]
      simp

theorem intercalate_concat {sep last : List Char} {fields : List (List Char)} (ne : fields ≠ []) :
    List.intercalate sep (fields ++ [last]) = List.intercalate sep fields ++ (sep ++ last) := by
  induction fields with
  | nil => contradiction
  | cons field rest ih =>
    by_cases single : rest = []
    · subst single
      simp [List.intercalate]
    · rw [List.cons_append, intercalate_cons (by simp), intercalate_cons single, ih single]
      simp

/-- With a separator after the last item, too, every item is followed by one. -/
theorem intercalate_append {sep : List Char} {items : List (List Char)} (h : items ≠ []) :
    List.intercalate sep items ++ sep = items.flatMap (· ++ sep) := by
  induction items with
  | nil => contradiction
  | cons item rest ih =>
    cases rest with
    | nil => simp [List.intercalate]
    | cons next rest =>
      have := ih (by simp)
      simp only [List.intercalate] at this
      simp [List.intercalate, this]

theorem toList_join_append {sep : String} {items : List String} (h : items ≠ []) :
    (join sep items ++ sep).toList = (items.map String.toList).flatMap (· ++ sep.toList) := by
  rw [← intercalate_append (by simpa using h)]
  simp [join]

end PageBuild.Text
