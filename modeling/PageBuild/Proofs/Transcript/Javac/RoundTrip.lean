import PageBuild.Proofs.Transcript.Reading
import PageBuild.Transcript.Javac.Printer

/-! Transcripts of `javac` read back. The first line of a block is told apart by its pattern, the
lines of the explanation by fitting none, and the reader's state between two blocks is determined
by the diagnostics so far, whether or not the block before is still open. -/
namespace PageBuild.Transcript.Javac

def Block.role : Block → Role
  | .located file number severity message _ => .opens {
      kind := severity.kind, source := some (String.ofList file.text),
      line := some (Text.natOfDigits number.digits), lead := [message.text] }
  | .fileless severity message _ _ => .opens { kind := severity.kind, lead := [message.text] }
  | .note message _ => .alone { kind := .note, message := String.ofList message.text }

theorem role_firstLine (block : Block) : Javac.role block.firstLine = .ok block.role := by
  cases block with
  | located file number severity message explanation =>
    have read := located?_append file.ne_nil number.numeral file.unmarked severity message.text
    exact role_of_located read number.length_le
  | fileless severity message explanation not_header => exact role_of_fileless not_header
  | note message not_header => exact role_of_note not_header

/-- The first line of a block ends with its message, so nothing is trimmed from it. -/
theorem trimRight_firstLine (block : Block) :
    Text.trimRight Text.isBlank block.firstLine = block.firstLine := by
  have ends : ∃ (front : List Char) (message : Message),
      block.firstLine = front ++ message.text := by
    cases block with
    | located file number severity message explanation =>
      exact ⟨file.text ++ mark number.digits severity, message, (List.append_assoc ..).symm⟩
    | fileless severity message explanation not_header => exact ⟨_, message, rfl⟩
    | note message not_header => exact ⟨_, message, rfl⟩
  obtain ⟨front, message, heq⟩ := ends
  rw [heq, Message.text, ← List.append_assoc]
  exact Text.trimRight_append_singleton message.last_not_blank _

theorem unbroken_mark {digits : List Char} (h : IsNumeral digits) (severity : Severity) :
    Text.Unbroken (mark digits severity) := by
  have word : Text.Unbroken (':' :: ' ' :: severity.word) := by cases severity <;> decide
  rw [mark, Text.unbroken_cons, Text.unbroken_append]
  exact ⟨by decide, h.unbroken, word⟩

theorem unbroken_firstLine (block : Block) : Text.Unbroken block.firstLine := by
  cases block with
  | located file number severity message explanation =>
    have marked := unbroken_mark number.numeral severity
    have tail := Text.unbroken_append.mpr ⟨marked, message.unbroken⟩
    exact Text.unbroken_append.mpr ⟨file.unbroken, tail⟩
  | fileless severity message explanation not_header =>
    have word : Text.Unbroken severity.word := by cases severity <;> decide
    exact Text.unbroken_append.mpr ⟨word, message.unbroken⟩
  | note message not_header =>
    have word : Text.Unbroken "Note: ".toList := by decide
    exact Text.unbroken_append.mpr ⟨word, message.unbroken⟩

theorem Caret.isCaretLine (caret : Caret) : IsCaretLine caret.text :=
  ⟨caret.indent, caret.more, caret.back, caret.indent_blank, caret.back_blank, rfl⟩

theorem Caret.unbroken_text (caret : Caret) : Text.Unbroken caret.text := by
  obtain ⟨hindent, hback⟩ := Text.unbroken_append.mp caret.unbroken
  rw [Caret.text, caretLine, Text.unbroken_append, Text.unbroken_append]
  refine ⟨⟨hindent, ?_⟩, hback⟩
  intro c hc
  rw [List.eq_of_mem_replicate hc]
  decide

theorem Explanation.mem_lines {explanation : Explanation} {line : List Char}
    (h : line ∈ explanation.lines) :
    (∃ plain : PlainLine, line = plain.text) ∨ (∃ caret : Caret, line = caret.text) := by
  rw [Explanation.lines, List.mem_append, List.mem_append] at h
  rcases h with (h | h) | h
  · obtain ⟨detail, -, rfl⟩ := List.mem_map.mp h
    exact .inl ⟨detail.toPlainLine, rfl⟩
  · cases hecho : explanation.echo with
    | none => simp [hecho] at h
    | some echo =>
      simp only [hecho, List.mem_cons, List.not_mem_nil, or_false] at h
      rcases h with rfl | rfl
      · exact .inl ⟨echo.1, rfl⟩
      · exact .inr ⟨echo.2, rfl⟩
  · obtain ⟨detail, -, rfl⟩ := List.mem_map.mp h
    exact .inl ⟨detail.toPlainLine, rfl⟩

theorem Explanation.unbroken_lines (explanation : Explanation) :
    ∀ line ∈ explanation.lines, Text.Unbroken line := by
  intro line hline
  rcases explanation.mem_lines hline with ⟨plain, rfl⟩ | ⟨caret, rfl⟩
  · exact plain.unbroken
  · exact caret.unbroken_text

/-- Blanks at the end make no difference to a caret line. -/
theorem isCaretLine_trimRight {line : List Char} :
    IsCaretLine (Text.trimRight Text.isBlank line) ↔ IsCaretLine line := by
  rw [← isCaret_iff, ← isCaret_iff, isCaret_trimRight]

theorem Explanation.ordinary_lines (explanation : Explanation) :
    ∀ line ∈ explanation.lines, IsOrdinary (Text.trimRight Text.isBlank line) := by
  intro line hline
  rcases explanation.mem_lines hline with ⟨plain, rfl⟩ | ⟨caret, rfl⟩
  · exact plain.ordinary
  · exact isOrdinary_of_isCaretLine (isCaretLine_trimRight.mpr caret.isCaretLine)

theorem Printed.unbroken_lines (printed : Printed) :
    ∀ line ∈ printed.lines, Text.Unbroken line := by
  intro line hline
  rw [Printed.lines, List.mem_cons, List.mem_append] at hline
  rcases hline with rfl | hline | hline
  · exact unbroken_firstLine printed.block
  · exact printed.block.explanation.unbroken_lines line hline
  · obtain ⟨count, -, rfl⟩ := List.mem_map.mp hline
    exact count.unbroken

def Printed.rows (printed : Printed) : List (List Char × Role) :=
  (printed.block.firstLine, printed.block.role) ::
    ((printed.block.explanation.lines.map (Text.trimRight Text.isBlank)).map
        (fun line => (line, .body)) ++
      (printed.counts.map fun count => Text.trimRight Text.isBlank count.text).map
        (fun line => (line, .closes)))

theorem Printed.map_fst_rows (printed : Printed) :
    printed.rows.map Prod.fst = printed.lines.map (Text.trimRight Text.isBlank) := by
  simp [Printed.rows, Printed.lines, trimRight_firstLine, Function.comp_def]

theorem Printed.role_rows (printed : Printed) :
    ∀ row ∈ printed.rows, Javac.role row.1 = .ok row.2 := by
  intro row hrow
  rw [Printed.rows, List.mem_cons, List.mem_append] at hrow
  rcases hrow with rfl | hrow | hrow
  · exact role_firstLine printed.block
  · obtain ⟨trimmed, htrimmed, rfl⟩ := List.mem_map.mp hrow
    obtain ⟨line, hline, rfl⟩ := List.mem_map.mp htrimmed
    exact role_of_ordinary (printed.block.explanation.ordinary_lines line hline)
  · obtain ⟨trimmed, htrimmed, rfl⟩ := List.mem_map.mp hrow
    obtain ⟨count, -, rfl⟩ := List.mem_map.mp htrimmed
    refine role_of_count ?_
    obtain ⟨digits, word, hword, hdigits, heq⟩ := count.isCount
    exact ⟨digits, word, hword, hdigits, by rw [Text.trim_trimRight, heq]⟩

theorem linesOf_transcript (printed : List Printed) :
    linesOf (transcript printed).toList = (printed.flatMap Printed.rows).map Prod.fst := by
  have unbroken : ∀ line ∈ printed.flatMap Printed.lines, Text.Unbroken line := by
    intro line hline
    obtain ⟨block, -, hblock⟩ := List.mem_flatMap.mp hline
    exact block.unbroken_lines line hblock
  rw [linesOf, transcript, String.toList_ofList, Text.lines_flatMap unbroken, List.map_flatMap,
    List.map_flatMap]
  simp only [Printed.map_fst_rows]

theorem PlainLine.isCaret_trimRight (plain : PlainLine) :
    isCaret (Text.trimRight Text.isBlank plain.text) = false := by
  rw [Transcript.isCaret_trimRight, ← Bool.not_eq_true, isCaret_iff]
  exact plain.not_caret

theorem Caret.isCaret_trimRight (caret : Caret) :
    isCaret (Text.trimRight Text.isBlank caret.text) = true :=
  isCaret_iff.mpr (isCaretLine_trimRight.mpr caret.isCaretLine)

theorem Caret.caretColumn_trimRight (caret : Caret) :
    caretColumn (Text.trimRight Text.isBlank caret.text) = caret.column := by
  have trimmed : Text.trimRight Text.isBlank caret.text = caretLine caret.indent caret.more [] := by
    rw [Caret.text, caretLine, Text.trimRight_append_run caret.back_blank,
      List.replicate_succ', ← List.append_assoc,
      Text.trimRight_append_singleton (by decide), caretLine, List.append_nil,
      List.replicate_succ', ← List.append_assoc]
  rw [trimmed, caretColumn_caretLine _ _ caret.indent_blank, Caret.column]

/-- The echo is left out of an explanation, and only the echo. -/
theorem Explanation.dropEcho_lines (explanation : Explanation) :
    dropEcho (explanation.lines.map (Text.trimRight Text.isBlank)) =
      ((explanation.before ++ explanation.after).map fun detail =>
        Text.trimRight Text.isBlank detail.text, explanation.column) := by
  have plain : ∀ details : List Detail,
      ∀ line ∈ (details.map (·.text)).map (Text.trimRight Text.isBlank), isCaret line = false := by
    intro details line hline
    rw [List.map_map] at hline
    obtain ⟨detail, -, rfl⟩ := List.mem_map.mp hline
    exact detail.toPlainLine.isCaret_trimRight
  obtain ⟨before, echo, after⟩ := explanation
  cases echo with
  | none =>
    have drop := dropEcho_of_not_caret (plain (before ++ after))
    simpa [Explanation.lines, Explanation.column, Function.comp_def] using drop
  | some echo =>
    obtain ⟨source, caret⟩ := echo
    have drop := dropEcho_of_caret ((after.map (·.text)).map (Text.trimRight Text.isBlank))
      (plain before) source.isCaret_trimRight caret.isCaret_trimRight
    rw [caret.caretColumn_trimRight] at drop
    simpa [Explanation.lines, Explanation.column, Function.comp_def] using drop

theorem Explanation.details_trimRight (explanation : Explanation) :
    Transcript.details ((explanation.before ++ explanation.after).map fun detail =>
      Text.trimRight Text.isBlank detail.text) = explanation.details := by
  rw [Transcript.details, Explanation.details, List.map_map]
  simp only [Function.comp_def, Text.trim_trimRight]
  refine List.filter_eq_self.mpr ?_
  intro line hline
  obtain ⟨detail, -, rfl⟩ := List.mem_map.mp hline
  simpa using detail.not_blank

theorem Heading.diagnostic_lines (heading : Heading) (explanation : Explanation) :
    heading.diagnostic (explanation.lines.map (Text.trimRight Text.isBlank)) = {
      kind := heading.kind
      message := String.ofList (List.intercalate ['\n'] (heading.lead ++ explanation.details))
      source := heading.source
      line := heading.line.map Int.ofNat
      column := explanation.column.map Int.ofNat } := by
  simp only [Heading.diagnostic, explanation.dropEcho_lines, explanation.details_trimRight]

/-- Reading a block adds its diagnostic, wherever the reader stood before. -/
theorem Printed.close_foldl_rows (printed : Printed) (r : Reading) :
    (printed.rows.foldl Reading.step r).close.done = r.close.done ++ [printed.block.diagnostic] := by
  obtain ⟨block, counts⟩ := printed
  cases block with
  | located file number severity message explanation =>
    rw [Printed.rows, Block.role, Reading.close_foldl_step_block]
    exact congrArg (r.close.done ++ [·]) (Heading.diagnostic_lines _ explanation)
  | fileless severity message explanation not_header =>
    rw [Printed.rows, Block.role, Reading.close_foldl_step_block]
    exact congrArg (r.close.done ++ [·]) (Heading.diagnostic_lines _ explanation)
  | note message not_header =>
    exact Reading.close_foldl_step_alone r _ _ _

/-- The run over all blocks: what has been read so far stays in front. -/
theorem close_foldl_rows (printed : List Printed) (r : Reading) :
    ((printed.flatMap Printed.rows).foldl Reading.step r).close.done =
      r.close.done ++ printed.map fun p => p.block.diagnostic := by
  induction printed generalizing r with
  | nil => simp
  | cons first rest ih =>
    rw [List.flatMap_cons, List.foldl_append, ih, first.close_foldl_rows, List.append_assoc,
      List.map_cons, List.singleton_append]

/-- Every transcript is read back as one diagnostic for each of its blocks, in order. -/
theorem parse_transcript (printed : List Printed) :
    parse .javac (transcript printed) = .ok (printed.map fun p => p.block.diagnostic) := by
  have roles : ∀ row ∈ printed.flatMap Printed.rows, Format.javac.role row.1 = .ok row.2 := by
    intro row hrow
    obtain ⟨block, -, hblock⟩ := List.mem_flatMap.mp hrow
    exact block.role_rows row hblock
  rw [parse_of_roles (linesOf_transcript printed) roles, collect, close_foldl_rows]
  rfl

end PageBuild.Transcript.Javac
