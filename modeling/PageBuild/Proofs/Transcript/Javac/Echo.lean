import PageBuild.Proofs.Transcript.Reading
import PageBuild.Transcript.Javac.Pattern

/-! Echoed source lines in the transcripts of `javac`. A line gets its role before it is known to
be an echo. One without a pattern is dropped with the caret line below it; one that fits a pattern
ends the block it stands in, which loses its column. -/
namespace PageBuild.Transcript.Javac

theorem role_eq_body_iff {line : List Char} : role line = .ok .body ↔ IsOrdinary line := by
  refine ⟨fun body => ?_, role_of_ordinary⟩
  cases located : located? line with
  | some l =>
    cases number : Text.readNumeral l.digits <;>
      simp [role, located, number, bind, Except.bind, pure, Except.pure] at body
  | none =>
    cases severity : severity? line with
    | some found => simp [role, located, severity] at body
    | none =>
      cases note : Text.after? "Note: ".toList line with
      | some message =>
        simp only [role, located, severity, note] at body
        simp at body
      | none =>
        simp only [role, located, severity, note] at body
        have uncounted : isCount line ≠ true := by
          intro count
          simp [count] at body
        exact ⟨located?_eq_none_iff.mp located, severity?_eq_none_iff.mp severity,
          note_eq_none_iff.mp note, mt isCount_iff.mpr uncounted⟩

/-- A header that can be read opens a block. -/
theorem exists_opens_of_role {line : List Char} (h : IsHeader line ∨ IsFileless line) {found : Role}
    (read : role line = .ok found) : ∃ heading, found = .opens heading := by
  cases located : located? line with
  | some l =>
    cases number : Text.readNumeral l.digits with
    | error e => simp [role, located, number, bind, Except.bind] at read
    | ok n =>
      simp only [role, located, number, bind, Except.bind, pure, Except.pure,
        Except.ok.injEq] at read
      exact ⟨_, read.symm⟩
  | none =>
    have fileless := h.resolve_left (located?_eq_none_iff.mp located)
    cases severity : severity? line with
    | some message =>
      simp only [role, located, severity, Except.ok.injEq] at read
      exact ⟨_, read.symm⟩
    | none => exact absurd fileless (severity?_eq_none_iff.mp severity)

/-- What stands around an echoed source line: the header above it, the caret line below it, and
any lines before and after. -/
structure Frame where
  before : List (List Char)
  header : List Char
  caret : List Char
  after : List (List Char)
  opens : IsHeader (Text.trimRight Text.isBlank header) ∨
    IsFileless (Text.trimRight Text.isBlank header)
  points : IsCaretLine caret

namespace Frame

def lines (f : Frame) (echo : List Char) : List (List Char) :=
  f.before ++ f.header :: echo :: f.caret :: f.after

def rows (f : Frame) (before after : List (List Char × Role)) (opening : Role) (echo : List Char)
    (role : Role) : List (List Char × Role) :=
  before ++ (Text.trimRight Text.isBlank f.header, opening) ::
    (Text.trimRight Text.isBlank echo, role) ::
    (Text.trimRight Text.isBlank f.caret, .body) :: after

theorem isCaret_trimRight (f : Frame) :
    isCaret (Text.trimRight Text.isBlank f.caret) = true := by
  rw [Transcript.isCaret_trimRight]
  exact isCaret_iff.mpr f.points

/-- The lines get their roles in turn, and no line number that cannot be read is passed over. -/
theorem parse_eq (f : Frame) {echo : List Char} {s : String}
    (lines : Text.lines s.toList = f.lines echo) :
    parse .javac s = do
      let before ← Format.javac.rows (f.before.map (Text.trimRight Text.isBlank))
      let opening ← Javac.role (Text.trimRight Text.isBlank f.header)
      let role ← Javac.role (Text.trimRight Text.isBlank echo)
      let after ← Format.javac.rows (f.after.map (Text.trimRight Text.isBlank))
      return collect (f.rows before after opening echo role) := by
  have caret : Javac.role (Text.trimRight Text.isBlank f.caret) = .ok .body :=
    role_of_ordinary (isOrdinary_of_isCaretLine (isCaret_iff.mp f.isCaret_trimRight))
  rw [parse_eq_rows, linesOf, lines, Frame.lines, List.map_append, Format.rows_append]
  simp only [List.map_cons, Format.rows_cons, Format.role, caret]
  cases Format.javac.rows (f.before.map (Text.trimRight Text.isBlank)) with
  | error e => rfl
  | ok before =>
    cases Javac.role (Text.trimRight Text.isBlank f.header) with
    | error e => rfl
    | ok opening =>
      cases Javac.role (Text.trimRight Text.isBlank echo) with
      | error e => rfl
      | ok role => cases Format.javac.rows (f.after.map (Text.trimRight Text.isBlank)) <;> rfl

/-- The echo is left out of the block, which takes its column from the caret line. -/
theorem dropEcho_echo (f : Frame) {echo : List Char} (notCaret : ¬ IsCaretLine echo)
    (more : List (List Char)) :
    dropEcho (Text.trimRight Text.isBlank echo :: Text.trimRight Text.isBlank f.caret :: more) =
      (more, some (caretColumn (Text.trimRight Text.isBlank f.caret))) := by
  have source : isCaret (Text.trimRight Text.isBlank echo) = false := by
    rw [Transcript.isCaret_trimRight, ← Bool.not_eq_true, isCaret_iff]
    exact notCaret
  have none : ∀ line ∈ ([] : List (List Char)), isCaret line = false := by simp
  exact dropEcho_of_caret more none source f.isCaret_trimRight

variable (f : Frame) (before after : List (List Char × Role)) (heading : Heading)

theorem collect_eq (echo : List Char) (role : Role) :
    collect (f.rows before after (.opens heading) echo role) =
      (after.foldl Reading.step (Reading.step (Reading.step
        { done := (before.foldl Reading.step {}).close.done, opened := some (heading, []) }
        (Text.trimRight Text.isBlank echo, role))
        (Text.trimRight Text.isBlank f.caret, .body))).close.done := by
  rw [collect, rows, List.foldl_append]
  rfl

/-- Two echoes without a pattern make no difference. -/
theorem collect_congr {first second : List Char} (firstNotCaret : ¬ IsCaretLine first)
    (secondNotCaret : ¬ IsCaretLine second) :
    collect (f.rows before after (.opens heading) first .body) =
      collect (f.rows before after (.opens heading) second .body) := by
  rw [collect_eq, collect_eq]
  refine congrArg Reading.done (Reading.close_foldl_congr (fun more => ?_) after _)
  have dropped := f.dropEcho_echo firstNotCaret more
  have dropped' := f.dropEcho_echo secondNotCaret more
  simp only [List.nil_append, List.cons_append, Heading.diagnostic, dropped, dropped']

/-- The block above an echo without a pattern has the column of the caret. -/
theorem exists_column {echo : List Char} (notCaret : ¬ IsCaretLine echo) :
    ∃ d, (collect (f.rows before after (.opens heading) echo .body))[
        (before.foldl Reading.step {}).close.done.length]? = some d ∧ d.column ≠ none := by
  let body := [Text.trimRight Text.isBlank echo, Text.trimRight Text.isBlank f.caret]
  obtain ⟨more, rest, read⟩ := Reading.exists_close_foldl_opened after
    (before.foldl Reading.step {}).close.done heading body
  have found : collect (f.rows before after (.opens heading) echo .body) =
      (before.foldl Reading.step {}).close.done ++ heading.diagnostic (body ++ more) :: rest :=
    (f.collect_eq before after heading echo .body).trans read
  have dropped := f.dropEcho_echo notCaret more
  refine ⟨heading.diagnostic (body ++ more), by simp [found], ?_⟩
  simp [Heading.diagnostic, body, dropped]

/-- An echo with a pattern ends the block above it before the caret line is read. -/
theorem exists_no_column (echo : List Char) {role : Role} (marked : role ≠ .body) :
    ∃ d, (collect (f.rows before after (.opens heading) echo role))[
        (before.foldl Reading.step {}).close.done.length]? = some d ∧ d.column = none := by
  let start : Reading :=
    { done := (before.foldl Reading.step {}).close.done, opened := some (heading, []) }
  have closed : start.done ++ [heading.diagnostic []] <+:
      (start.step (Text.trimRight Text.isBlank echo, role)).done := by
    cases role with
    | opens next => exact List.prefix_rfl
    | alone d => exact List.prefix_append _ _
    | closes => exact List.prefix_rfl
    | body => contradiction
  have read := Reading.done_prefix_foldl ((Text.trimRight Text.isBlank f.caret, .body) :: after)
    (start.step (Text.trimRight Text.isBlank echo, role))
  obtain ⟨rest, read⟩ := closed.trans read
  have found : collect (f.rows before after (.opens heading) echo role) =
      start.done ++ heading.diagnostic [] :: rest := by
    rw [collect_eq, List.append_cons]
    exact read.symm
  exact ⟨heading.diagnostic [], by simp [found, start], rfl⟩

/-- The block above an echo tells whether it fits a pattern. -/
theorem collect_ne {first : List Char} (second : List Char) {role : Role}
    (notCaret : ¬ IsCaretLine first) (marked : role ≠ .body) :
    collect (f.rows before after (.opens heading) first .body) ≠
      collect (f.rows before after (.opens heading) second role) := by
  intro same
  obtain ⟨d, found, column⟩ := f.exists_column before after heading notCaret
  obtain ⟨d', found', noColumn⟩ := f.exists_no_column before after heading second marked
  rw [same, found'] at found
  obtain rfl := Option.some.inj found
  exact column noColumn

end Frame

/-- An echoed source line is read as an echo exactly if it fits no pattern: then any other that
fits none gives the same diagnostics, and one that fits a pattern gives others or none at all. -/
theorem parse_eq_iff_isOrdinary (f : Frame) {first second : List Char} {s t : String}
    (firstLines : Text.lines s.toList = f.lines first)
    (secondLines : Text.lines t.toList = f.lines second)
    (firstNotCaret : ¬ IsCaretLine first) (secondNotCaret : ¬ IsCaretLine second)
    (ordinary : IsOrdinary (Text.trimRight Text.isBlank first)) :
    (IsOrdinary (Text.trimRight Text.isBlank second) → parse .javac s = parse .javac t) ∧
      (¬ IsOrdinary (Text.trimRight Text.isBlank second) →
        ∀ found, parse .javac s = .ok found → parse .javac t ≠ .ok found) := by
  rw [f.parse_eq firstLines, f.parse_eq secondLines, role_of_ordinary ordinary]
  cases Format.javac.rows (f.before.map (Text.trimRight Text.isBlank)) with
  | error e => exact ⟨fun _ => rfl, fun _ _ read => nomatch read⟩
  | ok before =>
    cases opening : Javac.role (Text.trimRight Text.isBlank f.header) with
    | error e => exact ⟨fun _ => rfl, fun _ _ read => nomatch read⟩
    | ok found =>
      obtain ⟨heading, rfl⟩ := exists_opens_of_role f.opens opening
      cases Format.javac.rows (f.after.map (Text.trimRight Text.isBlank)) with
      | error e =>
        refine ⟨fun ordinary' => ?_, fun _ _ read => nomatch read⟩
        rw [role_of_ordinary ordinary']
        rfl
      | ok after =>
        refine ⟨fun ordinary' => ?_, fun marked found read again => ?_⟩
        · rw [role_of_ordinary ordinary']
          exact congrArg Except.ok
            (f.collect_congr before after heading firstNotCaret secondNotCaret)
        · cases inner : Javac.role (Text.trimRight Text.isBlank second) with
          | error e =>
            rw [inner] at again
            exact nomatch again
          | ok role =>
            rw [inner] at again
            have notBody : role ≠ .body := fun isBody =>
              marked (role_eq_body_iff.mp (isBody ▸ inner))
            have same := (Except.ok.inj read).trans (Except.ok.inj again).symm
            exact f.collect_ne before after heading second firstNotCaret notBody same

def mistyped : Frame where
  before := []
  header := "A.java:3: error: incompatible types".toList
  caret := "                   ^".toList
  after := ["1 error".toList]
  opens := .inl (by decide)
  points := by decide

def mistyped.plainEcho : List Char := "        String s = 1;".toList

def mistyped.plain : String :=
  "A.java:3: error: incompatible types\n        String s = 1;\n                   ^\n1 error"

/-- A string of the source looks like the first line of a block. -/
def mistyped.forgedEcho : List Char := "        String s = \"B.java:7: error: boom\";".toList

def mistyped.forged : String :=
  "A.java:3: error: incompatible types\n        String s = \"B.java:7: error: boom\";\n" ++
    "                   ^\n1 error"

theorem lines_mistyped_plain :
    Text.lines mistyped.plain.toList = mistyped.lines mistyped.plainEcho := by decide +kernel

theorem lines_mistyped_forged :
    Text.lines mistyped.forged.toList = mistyped.lines mistyped.forgedEcho := by decide +kernel

theorem not_isCaretLine_mistyped :
    ¬ IsCaretLine mistyped.plainEcho ∧ ¬ IsCaretLine mistyped.forgedEcho := by decide

theorem parse_eq_iff_isOrdinary_mistyped :
    ¬ IsOrdinary (Text.trimRight Text.isBlank mistyped.forgedEcho) ∧
      ∀ found, parse .javac mistyped.plain = .ok found →
        parse .javac mistyped.forged ≠ .ok found := by
  have marked : ¬ IsOrdinary (Text.trimRight Text.isBlank mistyped.forgedEcho) := by decide
  have read := parse_eq_iff_isOrdinary mistyped lines_mistyped_plain lines_mistyped_forged
    not_isCaretLine_mistyped.1 not_isCaretLine_mistyped.2 (by decide)
  exact ⟨marked, read.2 marked⟩

/-- The echo of a source line can be a diagnostic of its own. -/
theorem exists_parse_ne :
    ¬ ∀ (f : Frame) (first second : List Char) (s t : String),
      Text.lines s.toList = f.lines first → Text.lines t.toList = f.lines second →
      ¬ IsCaretLine first → ¬ IsCaretLine second → parse .javac s = parse .javac t := by
  intro same
  have read := same mistyped _ _ _ _ lines_mistyped_plain lines_mistyped_forged
    not_isCaretLine_mistyped.1 not_isCaretLine_mistyped.2
  have count := congrArg (fun found => found.toOption.map List.length) read
  exact absurd count (by decide +kernel)

end PageBuild.Transcript.Javac
