import PageBuild.PathName

/-! Paths that are joined from texts. One text that begins with a slash anchors the whole path; the
parts are those of the texts. A suffix takes the place of the one that the last part has. -/
namespace PageBuild.PathName

variable {p : PathName} {texts init : List String} {part last suffix : String}

theorem anchorOf_eq_relative_iff {s : List Char} : anchorOf s = .relative ↔ s.head? ≠ some '/' := by
  cases s with
  | nil => simp [anchorOf]
  | cons c rest =>
    by_cases slash : c = '/'
    · subst slash
      simp only [List.head?_cons, ne_eq, not_true_eq_false, iff_false]
      unfold anchorOf
      split <;> simp_all
    · simp [anchorOf, slash]

theorem anchor_join_eq_relative_iff {q : PathName} :
    (p.join q).anchor = .relative ↔ p.anchor = .relative ∧ q.anchor = .relative := by
  unfold join
  by_cases relative : q.anchor = .relative
  · simp [relative]
  · simp [relative]

theorem mem_parts_join {q : PathName} (h : part ∈ (p.join q).parts) :
    part ∈ p.parts ∨ part ∈ q.parts := by
  unfold join at h
  split at h
  · exact List.mem_append.mp h
  · exact .inr h

def joinTexts (p : PathName) (texts : List String) : PathName :=
  texts.foldl (fun p s => p.join (ofText s)) p

theorem joinTexts_cons (p : PathName) (s : String) (texts : List String) :
    p.joinTexts (s :: texts) = (p.join (ofText s)).joinTexts texts := rfl

theorem anchor_joinTexts_eq_relative_iff :
    (p.joinTexts texts).anchor = .relative ↔
      p.anchor = .relative ∧ ∀ s ∈ texts, s.toList.head? ≠ some '/' := by
  induction texts generalizing p with
  | nil => simp [joinTexts]
  | cons s texts ih =>
    have first : (ofText s).anchor = .relative ↔ s.toList.head? ≠ some '/' :=
      anchorOf_eq_relative_iff
    rw [joinTexts_cons, ih, anchor_join_eq_relative_iff, first, List.forall_mem_cons, and_assoc]

theorem anchor_ofTexts_eq_relative_iff :
    (ofTexts texts).anchor = .relative ↔ ∀ s ∈ texts, s.toList.head? ≠ some '/' :=
  anchor_joinTexts_eq_relative_iff.trans (and_iff_right rfl)

theorem mem_parts_joinTexts (h : part ∈ (p.joinTexts texts).parts) :
    part ∈ p.parts ∨ ∃ s ∈ texts, part ∈ partsOf s.toList := by
  induction texts generalizing p with
  | nil => exact .inl h
  | cons s texts ih =>
    rcases ih h with here | ⟨later, member, found⟩
    · exact (mem_parts_join here).imp_right fun new => ⟨s, List.mem_cons_self, new⟩
    · exact .inr ⟨later, List.mem_cons_of_mem _ member, found⟩

theorem exists_of_mem_parts_ofTexts (h : part ∈ (ofTexts texts).parts) :
    ∃ s ∈ texts, part ∈ partsOf s.toList :=
  (mem_parts_joinTexts h).resolve_left List.not_mem_nil

/-- A part has its characters from the text that names it. -/
theorem subset_of_mem_partsOf {s : List Char} (h : part ∈ partsOf s) : part.toList ⊆ s := by
  simp only [partsOf, List.mem_filter, List.mem_map] at h
  obtain ⟨⟨field, split, rfl⟩, -⟩ := h
  simpa using Text.subset_of_mem_splitOn split

theorem ofText_of_isPart {s : String} (h : IsPart s) :
    (ofText s).anchor = .relative ∧ (ofText s).parts = [s] := by
  obtain ⟨named, noDot, noSlash⟩ := h
  constructor
  · refine anchorOf_eq_relative_iff.mpr fun slash => noSlash ?_
    exact List.mem_of_head? slash
  · have whole : partsOf s.toList = [s] := by
      simp [partsOf, Text.splitOn_of_notMem noSlash, named, noDot]
    exact whole

theorem joinTexts_of_isPart (h : ∀ s ∈ texts, IsPart s) :
    (p.joinTexts texts).anchor = p.anchor ∧ (p.joinTexts texts).parts = p.parts ++ texts := by
  induction texts generalizing p with
  | nil => simp [joinTexts]
  | cons s texts ih =>
    obtain ⟨here, later⟩ := List.forall_mem_cons.mp h
    obtain ⟨relative, whole⟩ := ofText_of_isPart here
    have joined : (p.join (ofText s)).anchor = p.anchor ∧
        (p.join (ofText s)).parts = p.parts ++ [s] := by
      unfold join
      rw [if_pos relative]
      exact ⟨rfl, congrArg _ whole⟩
    obtain ⟨anchor, parts⟩ := ih (p := p.join (ofText s)) later
    rw [joinTexts_cons, anchor, parts, joined.1, joined.2]
    simp

theorem ofTexts_of_isPart (h : ∀ s ∈ texts, IsPart s) :
    (ofTexts texts).anchor = .relative ∧ (ofTexts texts).parts = texts :=
  joinTexts_of_isPart h

theorem stem_of_notMem {name : List Char} (h : '.' ∉ name) : stem name = name := by
  simp [stem, h]

theorem stem_append {name tail : List Char} (named : name ≠ []) (ends : tail ≠ [])
    (plain : '.' ∉ tail) : stem (name ++ '.' :: tail) = name := by
  have turned : (name ++ '.' :: tail).reverse = tail.reverse ++ '.' :: name.reverse := by simp
  have run : (tail.reverse ++ '.' :: name.reverse).takeWhile (· ≠ '.') = tail.reverse := by
    rw [List.takeWhile_append_of_pos]
    · simp
    · intro c member
      have apart : c ≠ '.' := by
        rintro rfl
        exact plain (List.mem_reverse.mp member)
      simpa using apart
  have length : (name ++ '.' :: tail).length - tail.length - 1 = name.length := by
    simp only [List.length_append, List.length_cons]
    omega
  have kept : 0 < name.length := List.length_pos_iff.mpr named
  have cut : 0 < tail.length := List.length_pos_iff.mpr ends
  unfold stem
  dsimp only
  rw [turned, run, List.length_reverse, length]
  simp [kept, cut]

theorem withSuffix?_of_concat (h : IsSuffix suffix) (ends : p.parts = init ++ [last]) :
    ∃ q, p.withSuffix? suffix h = some q ∧ q.anchor = p.anchor ∧
      q.parts = init ++ [String.ofList (stem last.toList) ++ suffix] := by
  unfold withSuffix?
  split
  · next none => simp [ends] at none
  · next found some =>
    obtain rfl : last = found := by simpa [ends] using some
    exact ⟨_, rfl, rfl, by simp [ends]⟩

theorem withSuffix?_of_no_parts (h : IsSuffix suffix) (none : p.parts = []) :
    p.withSuffix? suffix h = .none := by
  unfold withSuffix?
  split
  · rfl
  · next found some => simp [none] at some

end PageBuild.PathName
