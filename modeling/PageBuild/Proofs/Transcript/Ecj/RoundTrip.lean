import PageBuild.Proofs.Transcript.Javac.RoundTrip
import PageBuild.Transcript.Ecj.Printer

/-! Transcripts of the Eclipse compiler read back. A problem that is still open when the next header
comes ends there, so the diagnostics between two problems do not depend on the separators; behind
the last separator nothing is open, and without a header nothing is opened again. -/
namespace PageBuild.Transcript.Ecj

open Javac (Caret isCaretLine_trimRight)

theorem trimRight_separator (more : Nat) :
    Text.trimRight Text.isBlank (separator more) = separator more := by
  rw [separator, show 10 + more = (9 + more) + 1 by omega, List.replicate_succ']
  exact Text.trimRight_append_singleton (by decide) _

theorem unbroken_separator (more : Nat) : Text.Unbroken (separator more) := by
  intro c hc
  rw [List.eq_of_mem_replicate hc]
  decide

/-- A header ends with the parenthesis of its place, so nothing is trimmed from it. -/
theorem trimRight_header (number : List Char) (severity : Severity) (file digits : List Char) :
    Text.trimRight Text.isBlank (header number severity file digits) =
      header number severity file digits := by
  have ends : header number severity file digits =
      (number ++ ('.' :: ' ' :: (severity.word ++ (file ++ (placeWords ++ digits))))) ++
        [')'] := by
    simp only [header, place, List.append_assoc, List.cons_append]
  rw [ends]
  exact Text.trimRight_append_singleton (by decide) _

theorem Problem.unbroken_header (p : Problem) : Text.Unbroken p.header := by
  have word : Text.Unbroken p.severity.word := by cases p.severity <;> decide
  have words : Text.Unbroken placeWords := by decide
  have numbers := And.intro p.numeral.unbroken p.line.numeral.unbroken
  rw [Problem.header, Ecj.header, place, Text.unbroken_append, Text.unbroken_cons,
    Text.unbroken_cons, Text.unbroken_append, Text.unbroken_append, Text.unbroken_append,
    Text.unbroken_append]
  exact ⟨numbers.1, by decide, by decide, word, p.file.unbroken, words, numbers.2, by decide⟩

theorem Problem.mem_body {p : Problem} {line : List Char} (h : line ∈ p.body) :
    (∃ plain : PlainLine, line = plain.text) ∨ (∃ caret : Caret, line = caret.text) := by
  rw [Problem.body, List.mem_append] at h
  rcases h with h | h
  · cases hecho : p.echo with
    | none => simp [hecho] at h
    | some echo =>
      simp only [hecho, List.mem_cons, List.not_mem_nil, or_false] at h
      rcases h with rfl | rfl
      · exact .inl ⟨echo.1, rfl⟩
      · exact .inr ⟨echo.2, rfl⟩
  · obtain ⟨said, -, rfl⟩ := List.mem_map.mp h
    exact .inl ⟨said.toPlainLine, rfl⟩

theorem Problem.unbroken_body (p : Problem) : ∀ line ∈ p.body, Text.Unbroken line := by
  intro line hline
  rcases p.mem_body hline with ⟨plain, rfl⟩ | ⟨caret, rfl⟩
  · exact plain.unbroken
  · exact caret.unbroken_text

theorem Problem.ordinary_body (p : Problem) :
    ∀ line ∈ p.body, IsOrdinary (Text.trimRight Text.isBlank line) := by
  intro line hline
  rcases p.mem_body hline with ⟨plain, rfl⟩ | ⟨caret, rfl⟩
  · exact plain.ordinary
  · exact isOrdinary_of_isCaretLine (isCaretLine_trimRight.mpr caret.isCaretLine)

theorem Printed.unbroken_lines (printed : Printed) :
    ∀ line ∈ printed.lines, Text.Unbroken line := by
  intro line hline
  rw [Printed.lines, List.mem_cons, List.mem_append] at hline
  rcases hline with rfl | hline | hline
  · exact printed.problem.unbroken_header
  · exact printed.problem.unbroken_body line hline
  · obtain ⟨more, -, rfl⟩ := List.mem_map.mp hline
    exact unbroken_separator more

theorem Printout.unbroken_lines (x : Printout) : ∀ line ∈ x.lines, Text.Unbroken line := by
  intro line hline
  rw [Printout.lines, List.mem_append, List.mem_append] at hline
  rcases hline with (hline | hline) | hline
  · obtain ⟨more, -, rfl⟩ := List.mem_map.mp hline
    exact unbroken_separator more
  · obtain ⟨printed, -, hprinted⟩ := List.mem_flatMap.mp hline
    exact printed.unbroken_lines line hprinted
  · obtain ⟨⟨more, _⟩, -, rfl⟩ := List.mem_map.mp hline
    exact unbroken_separator more

def Problem.heading (p : Problem) : Heading where
  kind := p.severity.kind
  source := some (String.ofList p.file.text)
  line := some (Text.natOfDigits p.line.digits)

def Printed.rows (printed : Printed) : List (List Char × Role) :=
  (printed.problem.header, .opens printed.problem.heading) ::
    ((printed.problem.body.map (Text.trimRight Text.isBlank)).map (fun line => (line, .body)) ++
      (printed.closing.toList.map separator).map (fun line => (line, .closes)))

def Rest.rows (rest : Rest) : List (List Char × Role) :=
  (linesOf rest.text).map fun line => (line, if isSeparator line then .closes else .body)

def separatorRows (separators : List Nat) : List (List Char × Role) :=
  separators.map fun more => (separator more, .closes)

def Printout.rows (x : Printout) : List (List Char × Role) :=
  separatorRows x.opening.toList ++ x.problems.flatMap Printed.rows ++
    x.rest.toList.flatMap fun (more, rest) => (separator more, .closes) :: rest.rows

theorem Printed.map_fst_rows (printed : Printed) :
    printed.rows.map Prod.fst = printed.lines.map (Text.trimRight Text.isBlank) := by
  simp [Printed.rows, Printed.lines, Problem.header, trimRight_header, trimRight_separator,
    Function.comp_def]

theorem linesOf_transcript (x : Printout) :
    linesOf x.transcript.toList = x.rows.map Prod.fst := by
  rw [linesOf, Printout.transcript, String.toList_ofList,
    Text.lines_flatMap_append x.unbroken_lines, List.map_append, Printout.rows, Printout.lines]
  cases x.rest with
  | none =>
    simp [separatorRows, List.map_flatMap, Printed.map_fst_rows, trimRight_separator, Text.lines,
      Function.comp_def]
  | some rest =>
    obtain ⟨more, rest⟩ := rest
    simp [separatorRows, List.map_flatMap, Printed.map_fst_rows, trimRight_separator, Rest.rows,
      linesOf, Function.comp_def]

theorem Printed.role_rows (printed : Printed) :
    ∀ row ∈ printed.rows, Ecj.role row.1 = .ok row.2 := by
  intro row hrow
  rw [Printed.rows, List.mem_cons, List.mem_append] at hrow
  rcases hrow with rfl | hrow | hrow
  · exact role_of_header printed.problem.numeral printed.problem.file.ne_nil
      printed.problem.line.numeral printed.problem.line.length_le _
  · obtain ⟨trimmed, htrimmed, rfl⟩ := List.mem_map.mp hrow
    obtain ⟨line, hline, rfl⟩ := List.mem_map.mp htrimmed
    exact role_of_ordinary (printed.problem.ordinary_body line hline)
  · obtain ⟨line, hline, rfl⟩ := List.mem_map.mp hrow
    obtain ⟨more, -, rfl⟩ := List.mem_map.mp hline
    exact role_separator more

theorem Rest.role_rows (rest : Rest) : ∀ row ∈ rest.rows, Ecj.role row.1 = .ok row.2 := by
  intro row hrow
  obtain ⟨line, hline, rfl⟩ := List.mem_map.mp hrow
  exact role_of_not_isHeader (rest.not_header line hline)

theorem Printout.role_rows (x : Printout) : ∀ row ∈ x.rows, Format.ecj.role row.1 = .ok row.2 := by
  intro row hrow
  rw [Printout.rows, List.mem_append, List.mem_append] at hrow
  rcases hrow with (hrow | hrow) | hrow
  · obtain ⟨more, -, rfl⟩ := List.mem_map.mp hrow
    exact role_separator more
  · obtain ⟨printed, -, hprinted⟩ := List.mem_flatMap.mp hrow
    exact printed.role_rows row hprinted
  · obtain ⟨⟨more, rest⟩, -, hrest⟩ := List.mem_flatMap.mp hrow
    rcases List.mem_cons.mp hrest with rfl | hrest
    · exact role_separator more
    · exact rest.role_rows row hrest

theorem PlainLine.isCaret_trimRight (plain : PlainLine) :
    isCaret (Text.trimRight Text.isBlank plain.text) = false := by
  rw [Transcript.isCaret_trimRight, ← Bool.not_eq_true, isCaret_iff]
  exact plain.not_caret

/-- The echo is left out of a problem, and only the echo. -/
theorem Problem.dropEcho_body (p : Problem) :
    dropEcho (p.body.map (Text.trimRight Text.isBlank)) =
      (p.message.map fun said => Text.trimRight Text.isBlank said.text, p.column) := by
  have plain : ∀ line ∈ p.message.map fun said => Text.trimRight Text.isBlank said.text,
      isCaret line = false := by
    intro line hline
    obtain ⟨said, -, rfl⟩ := List.mem_map.mp hline
    exact said.toPlainLine.isCaret_trimRight
  rw [Problem.body, Problem.column]
  cases p.echo with
  | none => simpa [Function.comp_def] using dropEcho_of_not_caret plain
  | some echo =>
    obtain ⟨source, caret⟩ := echo
    have nothing : ∀ line ∈ ([] : List (List Char)), isCaret line = false := by simp
    have drop := dropEcho_of_caret (p.message.map fun said => Text.trimRight Text.isBlank said.text)
      nothing source.isCaret_trimRight caret.isCaret_trimRight
    rw [caret.caretColumn_trimRight] at drop
    simpa [Function.comp_def] using drop

theorem Problem.details_trimRight (p : Problem) :
    Transcript.details (p.message.map fun said => Text.trimRight Text.isBlank said.text) =
      p.details := by
  rw [Transcript.details, Problem.details, List.map_map]
  simp only [Function.comp_def, Text.trim_trimRight]
  refine List.filter_eq_self.mpr ?_
  intro line hline
  obtain ⟨said, -, rfl⟩ := List.mem_map.mp hline
  simpa using said.not_blank

theorem Problem.diagnostic_heading (p : Problem) :
    p.heading.diagnostic (p.body.map (Text.trimRight Text.isBlank)) = p.diagnostic := by
  simp only [Heading.diagnostic, p.dropEcho_body, p.details_trimRight]
  rfl

/-- Reading a problem adds its diagnostic, wherever the reader stood before. -/
theorem Printed.close_foldl_rows (printed : Printed) (r : Reading) :
    (printed.rows.foldl Reading.step r).close.done =
      r.close.done ++ [printed.problem.diagnostic] := by
  rw [Printed.rows, Reading.close_foldl_step_block, printed.problem.diagnostic_heading]

/-- The run over all problems: what has been read so far stays in front. -/
theorem close_foldl_rows (problems : List Printed) (r : Reading) :
    ((problems.flatMap Printed.rows).foldl Reading.step r).close.done =
      r.close.done ++ problems.map fun p => p.problem.diagnostic := by
  induction problems generalizing r with
  | nil => simp
  | cons first rest ih =>
    rw [List.flatMap_cons, List.foldl_append, ih, first.close_foldl_rows, List.append_assoc,
      List.map_cons, List.singleton_append]

/-- Behind a separator, a text without headers adds nothing to what has been read. -/
theorem close_foldl_rest (more : Nat) (rest : Rest) (r : Reading) :
    (((separator more, Role.closes) :: rest.rows).foldl Reading.step r).close.done =
      r.close.done := by
  have idle : ∀ row ∈ rest.rows, row.2 = .closes ∨ row.2 = .body := by
    intro row hrow
    obtain ⟨line, -, rfl⟩ := List.mem_map.mp hrow
    dsimp only
    split
    · exact .inl rfl
    · exact .inr rfl
  have closed : Reading.step r (separator more, .closes) = { done := r.close.done } := by
    obtain ⟨done, opened⟩ := r
    cases opened <;> rfl
  rw [List.foldl_cons, closed, Reading.foldl_step_idle idle]
  rfl

theorem collect_rows (x : Printout) :
    collect x.rows = x.problems.map fun p => p.problem.diagnostic := by
  have idle : ∀ row ∈ separatorRows x.opening.toList, row.2 = .closes ∨ row.2 = .body := by
    intro row hrow
    obtain ⟨more, -, rfl⟩ := List.mem_map.mp hrow
    exact .inl rfl
  have problems := close_foldl_rows x.problems {}
  rw [collect, Printout.rows, List.foldl_append, List.foldl_append, Reading.foldl_step_idle idle]
  cases x.rest with
  | none => exact problems
  | some rest =>
    simp only [Option.toList_some, List.flatMap_cons, List.flatMap_nil, List.append_nil]
    exact (close_foldl_rest rest.1 rest.2 _).trans problems

/-- Every transcript is read back as one diagnostic for each of its problems, in order. -/
theorem parse_printout (x : Printout) :
    parse .ecj x.transcript = .ok (x.problems.map fun p => p.problem.diagnostic) := by
  rw [parse_of_roles (linesOf_transcript x) x.role_rows, collect_rows]

end PageBuild.Transcript.Ecj
