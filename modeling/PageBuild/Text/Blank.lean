/-! Blank characters, line ends, and what is trimmed by them. Three classes are kept apart:
the blanks that patterns and trimming skip, the smaller class trimmed from settings, and the
line ends. A line end is always a blank. -/
namespace PageBuild.Text

/-- A blank is a separator of words: the controls TAB to CR, the four information separators,
the space, NEL, and every space character of the general punctuation. -/
def isBlank (c : Char) : Bool :=
  let n := c.toNat
  (9 ≤ n && n ≤ 13) || (28 ≤ n && n ≤ 32) || n == 0x85 || n == 0xA0 || n == 0x1680 ||
    (0x2000 ≤ n && n ≤ 0x200A) || n == 0x2028 || n == 0x2029 || n == 0x202F || n == 0x205F ||
    n == 0x3000

/-- White space is a blank other than the four information separators. -/
def isWhite (c : Char) : Bool :=
  isBlank c && !(28 ≤ c.toNat && c.toNat ≤ 31)

/-- The characters that end a line: LF, VT, FF, CR, three of the information separators, NEL and
the line and paragraph separators. -/
def isLineEnd (c : Char) : Bool :=
  let n := c.toNat
  (10 ≤ n && n ≤ 13) || (28 ≤ n && n ≤ 30) || n == 0x85 || n == 0x2028 || n == 0x2029

theorem isBlank_of_isLineEnd {c : Char} (h : isLineEnd c = true) : isBlank c = true := by
  simp only [isLineEnd, isBlank, Bool.or_eq_true, Bool.and_eq_true, decide_eq_true_eq,
    beq_iff_eq] at h ⊢
  omega

theorem isLineEnd_eq_false {c : Char} (h : isBlank c = false) : isLineEnd c = false := by
  rw [← Bool.not_eq_true] at h ⊢
  exact mt isBlank_of_isLineEnd h

def trimRight (p : Char → Bool) (s : List Char) : List Char :=
  (s.reverse.dropWhile p).reverse

def trim (p : Char → Bool) (s : List Char) : List Char :=
  trimRight p (s.dropWhile p)

@[simp] theorem trimRight_nil (p : Char → Bool) : trimRight p [] = [] := rfl
@[simp] theorem trim_nil (p : Char → Bool) : trim p [] = [] := rfl

theorem trimRight_append_singleton {p : Char → Bool} {c : Char} (h : p c = false) (s : List Char) :
    trimRight p (s ++ [c]) = s ++ [c] := by
  simp [trimRight, h]

/-- A run of the class at the end is dropped as a whole. -/
theorem trimRight_append_run {p : Char → Bool} {run : List Char} (h : ∀ c ∈ run, p c = true)
    (s : List Char) : trimRight p (s ++ run) = trimRight p s := by
  have reversed : ∀ c ∈ run.reverse, p c = true := fun c hc => h c (List.mem_reverse.mp hc)
  rw [trimRight, List.reverse_append, List.dropWhile_append_of_pos reversed, trimRight]

/-- What is dropped at the end is a run of the class. -/
theorem exists_eq_trimRight_append (p : Char → Bool) (s : List Char) :
    ∃ run, (∀ c ∈ run, p c = true) ∧ s = trimRight p s ++ run := by
  refine ⟨(s.reverse.takeWhile p).reverse, ?_, ?_⟩
  · intro c hc
    exact List.all_eq_true.mp List.all_takeWhile c (List.mem_reverse.mp hc)
  · rw [trimRight, ← List.reverse_append, List.takeWhile_append_dropWhile, List.reverse_reverse]

theorem trim_run_append {p : Char → Bool} {run : List Char} (h : ∀ c ∈ run, p c = true)
    (s : List Char) : trim p (run ++ s) = trim p s := by
  rw [trim, List.dropWhile_append_of_pos h, trim]

/-- What is dropped at both ends are runs of the class. -/
theorem exists_eq_append_trim_append (p : Char → Bool) (s : List Char) :
    ∃ front back, (∀ c ∈ front, p c = true) ∧ (∀ c ∈ back, p c = true) ∧
      s = front ++ trim p s ++ back := by
  obtain ⟨back, hback, split⟩ := exists_eq_trimRight_append p (s.dropWhile p)
  refine ⟨s.takeWhile p, back, List.all_eq_true.mp List.all_takeWhile, hback, ?_⟩
  rw [List.append_assoc, trim, ← split, List.takeWhile_append_dropWhile]

theorem trim_subset (p : Char → Bool) (s : List Char) : trim p s ⊆ s := by
  obtain ⟨before, after, -, -, whole⟩ := exists_eq_append_trim_append p s
  intro c member
  rw [whole]
  simp [member]

/-- A run of the class at the end is dropped as a whole, whatever is dropped at the front. -/
theorem trim_append_run {p : Char → Bool} {run : List Char} (h : ∀ c ∈ run, p c = true)
    (s : List Char) : trim p (s ++ run) = trim p s := by
  simp only [trim]
  induction s with
  | nil =>
    have dropped : run.dropWhile p = [] := by
      rw [← List.append_nil run, List.dropWhile_append_of_pos h, List.dropWhile_nil]
    rw [List.nil_append, dropped]
    rfl
  | cons c s ih =>
    by_cases hc : p c = true
    · simpa [hc] using ih
    · simp only [List.cons_append, List.dropWhile_cons_of_neg hc]
      rw [← List.cons_append, trimRight_append_run h]

/-- Trimming at the end first makes no difference. -/
@[simp] theorem trim_trimRight (p : Char → Bool) (s : List Char) :
    trim p (trimRight p s) = trim p s := by
  obtain ⟨run, hrun, split⟩ := exists_eq_trimRight_append p s
  calc trim p (trimRight p s)
    _ = trim p (trimRight p s ++ run) := (trim_append_run hrun _).symm
    _ = trim p s := by rw [← split]

theorem head?_trim {p : Char → Bool} {s : List Char} : ∀ c ∈ (trim p s).head?, p c = false := by
  intro c hc
  obtain ⟨run, -, split⟩ := exists_eq_trimRight_append p (s.dropWhile p)
  have first : (s.dropWhile p).head? = some c := by
    rw [split, List.head?_append, ← trim, hc]
    rfl
  have other := List.head?_dropWhile_not p s
  rw [first] at other
  exact other

theorem getLast?_trim {p : Char → Bool} {s : List Char} :
    ∀ c ∈ (trim p s).getLast?, p c = false := by
  intro c hc
  rw [trim, trimRight, List.getLast?_reverse] at hc
  have other := List.head?_dropWhile_not p (s.dropWhile p).reverse
  rw [hc] at other
  exact other

/-- Nothing is dropped where neither end is of the class. -/
theorem trim_eq_self_of_ends {p : Char → Bool} {s : List Char}
    (front : ∀ c ∈ s.head?, p c = false) (back : ∀ c ∈ s.getLast?, p c = false) :
    trim p s = s := by
  have kept : s.dropWhile p = s := by
    cases s with
    | nil => rfl
    | cons c s => simp [front c rfl]
  rw [trim, kept]
  rcases List.eq_nil_or_concat s with rfl | ⟨init, last, rfl⟩
  · rfl
  · rw [List.concat_eq_append] at back ⊢
    exact trimRight_append_singleton (back last (by simp)) init

theorem trim_eq_self {p : Char → Bool} {s : List Char} (h : ∀ c ∈ s, p c = false) :
    trim p s = s :=
  trim_eq_self_of_ends (fun c hc => h c (List.mem_of_mem_head? hc))
    fun c hc => h c (List.mem_of_mem_getLast? hc)

@[simp] theorem trim_trim (p : Char → Bool) (s : List Char) : trim p (trim p s) = trim p s :=
  trim_eq_self_of_ends head?_trim getLast?_trim

def strip (s : String) : String := String.ofList (trim isBlank s.toList)

def stripWhite (s : String) : String := String.ofList (trim isWhite s.toList)

end PageBuild.Text
