import PageBuild.Transcript.Format
import PageBuild.Transcript.Pattern

/-! Transcripts read line by line. Whatever the format, a row of body lines only extends the open
block, and what has been read already is never taken back. -/
namespace PageBuild.Transcript

/-- Lines whose roles are known are read by their roles. -/
theorem parse_of_roles {format : Format} {s : String} {rows : List (List Char × Role)}
    (hlines : linesOf s.toList = rows.map Prod.fst)
    (hroles : ∀ row ∈ rows, format.role row.1 = .ok row.2) :
    parse format s = .ok (collect rows) := by
  have read : (rows.map Prod.fst).mapM (fun line => do return (line, ← format.role line)) =
      (Except.ok rows : Except Text.LongNumeral _) := by
    clear hlines
    induction rows with
    | nil => rfl
    | cons row rows ih =>
      have tail := ih fun row hrow => hroles row (List.mem_cons_of_mem _ hrow)
      rw [List.map_cons, List.mapM_cons, tail, hroles row List.mem_cons_self]
      rfl
  rw [parse, hlines, read]
  rfl

/-- Lines with their roles, up to the first line number that cannot be read. -/
def Format.rows (format : Format) (lines : List (List Char)) :
    Except Text.LongNumeral (List (List Char × Role)) :=
  lines.mapM fun line => do return (line, ← format.role line)

theorem parse_eq_rows (format : Format) (s : String) :
    parse format s = collect <$> format.rows (linesOf s.toList) := by
  cases h : format.rows (linesOf s.toList) <;>
    simp only [parse, Format.rows] at h ⊢ <;> rw [h] <;> rfl

theorem Format.rows_append (format : Format) (first second : List (List Char)) :
    format.rows (first ++ second) = do
      let before ← format.rows first
      let after ← format.rows second
      return before ++ after :=
  List.mapM_append

theorem Format.rows_cons (format : Format) (line : List Char) (lines : List (List Char)) :
    format.rows (line :: lines) = do
      let role ← format.role line
      let rows ← format.rows lines
      return (line, role) :: rows := by
  unfold Format.rows
  rw [List.mapM_cons]
  cases format.role line <;> rfl

@[simp] theorem Reading.close_close (r : Reading) : r.close.close = r.close := by
  obtain ⟨done, opened⟩ := r
  cases opened <;> rfl

/-- Body lines extend the open block. -/
theorem Reading.foldl_step_body (lines : List (List Char)) (done : List Diagnostic)
    (heading : Heading) (body : List (List Char)) :
    (lines.map fun line => (line, Role.body)).foldl Reading.step
      { done, opened := some (heading, body) } =
      { done, opened := some (heading, body ++ lines) } := by
  induction lines generalizing body with
  | nil => simp
  | cons line lines ih =>
    rw [List.map_cons, List.foldl_cons]
    simp only [Reading.step]
    rw [ih, List.append_assoc, List.singleton_append]

/-- The block closes at the first line that closes it, and the others change nothing. -/
theorem Reading.close_foldl_step_closes (lines : List (List Char)) (r : Reading) :
    ((lines.map fun line => (line, Role.closes)).foldl Reading.step r).close = r.close := by
  induction lines generalizing r with
  | nil => rfl
  | cons line lines ih =>
    rw [List.map_cons, List.foldl_cons, ih]
    exact r.close_close

/-- Outside a block, lines that neither open one nor stand alone are passed over. -/
theorem Reading.foldl_step_idle {rows : List (List Char × Role)}
    (h : ∀ row ∈ rows, row.2 = .closes ∨ row.2 = .body) (done : List Diagnostic) :
    rows.foldl Reading.step { done } = { done } := by
  induction rows with
  | nil => rfl
  | cons row rows ih =>
    have passed : Reading.step { done } row = { done } := by
      obtain ⟨line, role⟩ := row
      rcases h _ List.mem_cons_self with rfl | rfl <;> rfl
    rw [List.foldl_cons, passed, ih fun row hrow => h row (List.mem_cons_of_mem _ hrow)]

/-- A heading, its body and the lines that close them add the diagnostic of the block. -/
theorem Reading.close_foldl_step_block (r : Reading) (first : List Char) (heading : Heading)
    (body closing : List (List Char)) :
    (((first, Role.opens heading) :: (body.map (fun line => (line, Role.body)) ++
      closing.map (fun line => (line, Role.closes)))).foldl Reading.step r).close.done =
      r.close.done ++ [heading.diagnostic body] := by
  rw [List.foldl_cons, List.foldl_append, close_foldl_step_closes]
  have opened : Reading.step r (first, .opens heading) =
      { done := r.close.done, opened := some (heading, []) } := rfl
  rw [opened, foldl_step_body]
  rfl

/-- A diagnostic that stands alone is added behind the open block. -/
theorem Reading.close_foldl_step_alone (r : Reading) (first : List Char) (d : Diagnostic)
    (closing : List (List Char)) :
    (((first, Role.alone d) :: closing.map (fun line => (line, Role.closes))).foldl
      Reading.step r).close.done = r.close.done ++ [d] := by
  rw [List.foldl_cons, close_foldl_step_closes]
  rfl

/-- What has been read already stays in front. -/
theorem Reading.done_prefix_foldl (rows : List (List Char × Role)) (r : Reading) :
    r.done <+: (rows.foldl Reading.step r).close.done := by
  have closed : ∀ r : Reading, r.done <+: r.close.done := by
    rintro ⟨done, opened⟩
    cases opened with
    | none => exact List.prefix_rfl
    | some block => exact List.prefix_append done _
  induction rows generalizing r with
  | nil => exact closed r
  | cons row rows ih =>
    refine List.IsPrefix.trans ?_ (ih (r.step row))
    obtain ⟨line, role⟩ := row
    cases role with
    | opens heading => exact closed r
    | alone d => exact (closed r).trans (List.prefix_append _ _)
    | closes => exact closed r
    | body =>
      simp only [Reading.step]
      split <;> exact List.prefix_rfl

/-- The open block becomes the next diagnostic, with all body lines that still follow. -/
theorem Reading.exists_close_foldl_opened (rows : List (List Char × Role))
    (done : List Diagnostic) (heading : Heading) (body : List (List Char)) :
    ∃ more rest, (rows.foldl Reading.step { done, opened := some (heading, body) }).close.done =
      done ++ heading.diagnostic (body ++ more) :: rest := by
  induction rows generalizing body with
  | nil => exact ⟨[], [], by simp [Reading.close]⟩
  | cons row rows ih =>
    obtain ⟨line, role⟩ := row
    by_cases isBody : role = .body
    · subst isBody
      obtain ⟨more, rest, read⟩ := ih (body ++ [line])
      exact ⟨line :: more, rest, by simpa [Reading.step] using read⟩
    · have read := Reading.done_prefix_foldl rows
        (Reading.step { done, opened := some (heading, body) } (line, role))
      have closed : done ++ [heading.diagnostic body] <+:
          (Reading.step { done, opened := some (heading, body) } (line, role)).done := by
        cases role with
        | opens heading => exact List.prefix_rfl
        | alone d => exact List.prefix_append _ _
        | closes => exact List.prefix_rfl
        | body => contradiction
      obtain ⟨rest, eq⟩ := closed.trans read
      exact ⟨[], rest, by rw [List.foldl_cons, ← eq]; simp⟩

/-- Two bodies that make the same diagnostic, however they go on, are read alike. -/
theorem Reading.close_foldl_congr {heading : Heading} {first second : List (List Char)}
    (same : ∀ more, heading.diagnostic (first ++ more) = heading.diagnostic (second ++ more))
    (rows : List (List Char × Role)) (done : List Diagnostic) :
    (rows.foldl Reading.step { done, opened := some (heading, first) }).close =
      (rows.foldl Reading.step { done, opened := some (heading, second) }).close := by
  induction rows generalizing first second with
  | nil => simpa [Reading.close] using same []
  | cons row rows ih =>
    have closed : Reading.close { done, opened := some (heading, first) } =
        Reading.close { done, opened := some (heading, second) } := by
      simpa [Reading.close] using same []
    obtain ⟨line, role⟩ := row
    cases role with
    | opens next => simp only [List.foldl_cons, Reading.step, closed]
    | alone d => simp only [List.foldl_cons, Reading.step, closed]
    | closes => simp only [List.foldl_cons, Reading.step, closed]
    | body =>
      simp only [List.foldl_cons, Reading.step]
      exact ih fun more => by simpa using same (line :: more)

theorem dropEchoAfter_of_not_caret (held : List Char) {lines : List (List Char)}
    (h : ∀ line ∈ lines, isCaret line = false) :
    dropEchoAfter held lines = (held :: lines, none) := by
  induction lines generalizing held with
  | nil => rfl
  | cons line lines ih =>
    have tail := ih line fun line hline => h line (List.mem_cons_of_mem _ hline)
    simp [dropEchoAfter, h line List.mem_cons_self, tail]

theorem dropEcho_of_not_caret {lines : List (List Char)}
    (h : ∀ line ∈ lines, isCaret line = false) : dropEcho lines = (lines, none) := by
  cases lines with
  | nil => rfl
  | cons line lines =>
    have tail := dropEchoAfter_of_not_caret line fun line hline =>
      h line (List.mem_cons_of_mem _ hline)
    simp [dropEcho, h line List.mem_cons_self, tail]

theorem dropEchoAfter_of_caret (held : List Char) {before : List (List Char)}
    {source caret : List Char} (after : List (List Char))
    (hbefore : ∀ line ∈ before, isCaret line = false) (hsource : isCaret source = false)
    (hcaret : isCaret caret = true) :
    dropEchoAfter held (before ++ source :: caret :: after) =
      (held :: before ++ after, some (caretColumn caret)) := by
  induction before generalizing held with
  | nil => simp [dropEchoAfter, hsource, hcaret]
  | cons line before ih =>
    have tail := ih line fun line hline => hbefore line (List.mem_cons_of_mem _ hline)
    simp [dropEchoAfter, hbefore line List.mem_cons_self, tail]

/-- The first caret line is left out together with the line above it. -/
theorem dropEcho_of_caret {before : List (List Char)} {source caret : List Char}
    (after : List (List Char)) (hbefore : ∀ line ∈ before, isCaret line = false)
    (hsource : isCaret source = false) (hcaret : isCaret caret = true) :
    dropEcho (before ++ source :: caret :: after) =
      (before ++ after, some (caretColumn caret)) := by
  cases before with
  | nil => simp [dropEcho, dropEchoAfter, hsource, hcaret]
  | cons line before =>
    have tail := dropEchoAfter_of_caret line after
      (fun line hline => hbefore line (List.mem_cons_of_mem _ hline)) hsource hcaret
    simp [dropEcho, hbefore line List.mem_cons_self, tail]

end PageBuild.Transcript
