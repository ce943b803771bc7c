import PageBuild.Proofs.Session.Endings
import PageBuild.Proofs.Transcript.Segments

/-! Transcripts of a process: what it wrote as its output and what it wrote as its errors. The two
are joined by a line feed and stripped once more; the lines stay those of the output and then those
of the errors, so that only a block which is still open at the end of the output could notice. -/
namespace PageBuild

/-- A line feed between two texts without blanks at their ends only ends a line. -/
theorem Text.lines_trim_append {s t : List Char} (hs : trim isBlank s = s)
    (ht : trim isBlank t = t) :
    lines (trim isBlank (s ++ '\n' :: t)) = lines s ++ lines t := by
  have newline : ∀ c ∈ ['\n'], isBlank c = true := List.forall_mem_singleton.mpr (by decide)
  by_cases noOutput : s = []
  · have only := trim_run_append newline t
    rw [List.singleton_append] at only
    rw [noOutput, List.nil_append, only, ht]
    rfl
  by_cases noErrors : t = []
  · rw [noErrors, trim_append_run newline, hs]
    exact (List.append_nil _).symm
  · have front : ∀ c ∈ (s ++ '\n' :: t).head?, isBlank c = false := by
      rw [List.head?_append_of_ne_nil s noOutput, ← hs]
      exact head?_trim
    have back : ∀ c ∈ (s ++ '\n' :: t).getLast?, isBlank c = false := by
      rw [List.getLast?_append_cons, List.getLast?_cons_of_ne_nil noErrors, ← ht]
      exact getLast?_trim
    have plain : ∀ c ∈ s.getLast?, isLineEnd c = false := by
      rw [← hs]
      exact fun c hc => isLineEnd_eq_false (getLast?_trim c hc)
    rw [trim_eq_self_of_ends front back]
    exact lines_append_newline noOutput plain t

namespace Transcript

/-! Readings that are put together. -/

theorem bodyRun_append {first second : List (List Char × Role)}
    (h : ∀ row ∈ second.head?, row.2 ≠ .body) : bodyRun (first ++ second) = bodyRun first := by
  induction first with
  | nil =>
    cases second with
    | nil => rfl
    | cons row second => simp [bodyRun, h row rfl]
  | cons row first ih =>
    by_cases body : row.2 = .body
    · simpa [bodyRun, body] using ih
    · simp [bodyRun, body]

/-- Rows that do not begin with body are read alike wherever they stand. -/
theorem lookAhead_append {first second : List (List Char × Role)}
    (h : ∀ row ∈ second.head?, row.2 ≠ .body) :
    lookAhead (first ++ second) = lookAhead first ++ lookAhead second := by
  induction first with
  | nil => rfl
  | cons row first ih =>
    obtain ⟨line, role⟩ := row
    cases role with
    | opens heading =>
      rw [List.cons_append, lookAhead, lookAhead, bodyRun_append h, ih, List.cons_append]
    | alone d => rw [List.cons_append, lookAhead, lookAhead, ih, List.cons_append]
    | closes => rw [List.cons_append, lookAhead, lookAhead, ih]
    | body => rw [List.cons_append, lookAhead, lookAhead, ih]

theorem parse_append {format : Format} {whole s t : String}
    (lines : linesOf whole.toList = linesOf s.toList ++ linesOf t.toList)
    (seam : ∀ line ∈ (linesOf t.toList).head?, ¬ format.IsOrdinary line) :
    parse format whole = do return (← parse format s) ++ (← parse format t) := by
  rw [parse_eq_rows, parse_eq_rows, parse_eq_rows, lines, Format.rows_append]
  cases format.rows (linesOf s.toList) with
  | error e => rfl
  | ok first =>
    cases hsecond : format.rows (linesOf t.toList) with
    | error e => rfl
    | ok second =>
      obtain ⟨split, roles⟩ := Format.rows_eq_ok_iff.mp hsecond
      have begins : ∀ row ∈ second.head?, row.2 ≠ .body := by
        intro row hrow body
        have fits := Format.fits_of_role (roles row (List.mem_of_mem_head? hrow))
        refine seam row.1 ?_ (fits.eq_body_iff.mp body)
        rw [split, List.head?_map, hrow]
        rfl
      have joined : collect (first ++ second) = collect first ++ collect second := by
        rw [collect_eq_lookAhead, collect_eq_lookAhead, collect_eq_lookAhead,
          lookAhead_append begins]
      exact congrArg Except.ok joined

/-! The process of a command. -/

theorem toList_written (bytes : List UInt8) :
    Text.trim Text.isBlank (Completion.written bytes).toList =
      (Completion.written bytes).toList := by
  simp [Completion.written, Text.strip]

/-- The lines of a process are those of its output and then those of its errors. -/
theorem linesOf_text {c : Completion} {output errors : List UInt8}
    (houtput : c.output = Completion.written output)
    (herrors : c.errors = Completion.written errors) :
    linesOf c.text.toList = linesOf c.output.toList ++ linesOf c.errors.toList := by
  have joined : c.text.toList =
      Text.trim Text.isBlank (c.output.toList ++ '\n' :: c.errors.toList) := by
    simp [Completion.text, Text.strip]
  rw [linesOf, joined, houtput, herrors,
    Text.lines_trim_append (toList_written output) (toList_written errors), List.map_append,
    linesOf, linesOf]

/-- A process that exits is read as its output and its errors are by themselves, decoded leniently
and stripped, unless the errors begin with an ordinary line. Its command returns if it could be
passed to the operating system and waited for. -/
theorem parse_text_eq_append (format : Format) (command : List String) (timeout : Option Quantity)
    (directory : Option String) (added : List (String × String)) (s : Session)
    {output errors : List UInt8} (exits : s.nextEnding.Exits output errors)
    (seam : ∀ line ∈
      (linesOf (Text.strip (String.ofList (Utf8.decodeLenient errors))).toList).head?,
      ¬ format.IsOrdinary line) :
    ((∃ c s', Command.run command timeout directory added s = .ok c s') ↔
      Command.IsPassable command directory added ∧
        timeout.bind Command.unwaitable? = none) ∧
    ∀ c s', Command.run command timeout directory added s = .ok c s' →
      c.output = Text.strip (String.ofList (Utf8.decodeLenient output)) ∧
      c.errors = Text.strip (String.ofList (Utf8.decodeLenient errors)) ∧
      parse format c.text = (do return (← parse format c.output) ++ (← parse format c.errors)) ∧
      (format.IsReadable c.output → format.IsReadable c.errors →
        ∃ first second, parse format c.output = .ok first ∧ parse format c.errors = .ok second ∧
          parse format c.text = .ok (first ++ second)) := by
  refine ⟨Command.exists_run_iff_of_exits exits, fun c s' run => ?_⟩
  obtain ⟨houtput, herrors⟩ := Command.written_of_run exits run
  have apart : parse format c.text =
      (do return (← parse format c.output) ++ (← parse format c.errors)) := by
    refine parse_append (linesOf_text houtput herrors) ?_
    rwa [herrors]
  refine ⟨houtput, herrors, apart, fun readableOutput readableErrors => ?_⟩
  obtain ⟨first, hfirst, -⟩ := Format.exists_reports readableOutput
  obtain ⟨second, hsecond, -⟩ := Format.exists_reports readableErrors
  refine ⟨first, second, hfirst, hsecond, apart.trans ?_⟩
  rw [hfirst, hsecond]
  rfl

/-- The output leaves a block open and ends in a byte that is no text. -/
def tornOutput : List UInt8 := Utf8.encode "A.java:1: error: e\r\n  left \r" ++ [255]

def tornErrors : List UInt8 := Utf8.encode "\nNote: n\r"

def torn : Session := { files := ⟨[], []⟩, endings := [.exited 1 tornOutput tornErrors] }

theorem parse_text_eq_append_torn :
    (∀ line ∈ (linesOf (Text.strip (String.ofList (Utf8.decodeLenient tornErrors))).toList).head?,
      ¬ Format.javac.IsOrdinary line) ∧
    ∃ c s', Command.run ["javac"] none none [] torn = .ok c s' ∧
      ∃ first second, parse .javac c.output = .ok first ∧ parse .javac c.errors = .ok second ∧
        parse .javac c.text = .ok (first ++ second) := by
  have seam : ∀ line ∈
      (linesOf (Text.strip (String.ofList (Utf8.decodeLenient tornErrors))).toList).head?,
      ¬ Format.javac.IsOrdinary line := by
    decide +kernel
  have readableOutput : Format.javac.IsReadable
      (Text.strip (String.ofList (Utf8.decodeLenient tornOutput))) := by
    decide +kernel
  have readableErrors : Format.javac.IsReadable
      (Text.strip (String.ofList (Utf8.decodeLenient tornErrors))) := by
    decide +kernel
  have passable : Command.IsPassable ["javac"] none [] := ⟨by decide, nofun, nofun⟩
  obtain ⟨returns, read⟩ :=
    parse_text_eq_append .javac ["javac"] none none [] torn ⟨rfl, rfl⟩ seam
  obtain ⟨c, s', run⟩ := returns.mpr ⟨passable, rfl⟩
  obtain ⟨houtput, herrors, -, joined⟩ := read c s' run
  rw [← houtput] at readableOutput
  rw [← herrors] at readableErrors
  exact ⟨seam, c, s', run, joined readableOutput readableErrors⟩

/-- Errors that begin with an ordinary line go on with the block that the output leaves open. -/
example : parse .javac "A.java:1: error: e\nleft" ≠ (do
    return (← parse .javac "A.java:1: error: e") ++ (← parse .javac "left")) := by
  decide +kernel

end Transcript
end PageBuild
