import Mathlib.Data.List.Forall2
import Mathlib.Data.List.Induction
import PageBuild.Proofs.Transcript.Reading
import PageBuild.Transcript.Segments

/-! Transcripts by their segments. The reader holds at most one open block; looking ahead instead,
every block has its body right below its first line, and the reader's state is no longer needed. -/
namespace PageBuild.Transcript

/-! Bodies. -/

theorem caretColumn_eq_idxOf (line : List Char) : caretColumn line = line.idxOf '^' + 1 := by
  rw [caretColumn]
  induction line with
  | nil => rfl
  | cons c line ih =>
    by_cases caret : c = '^'
    · simp [caret]
    · have other : (c == '^') = false := by simpa using caret
      simpa [caret, other, List.idxOf_cons] using ih

/-- The first caret line is left out, with the line above it if there is one. -/
theorem dropEcho_append_caret {before : List (List Char)} {caret : List Char}
    (after : List (List Char)) (hbefore : ∀ line ∈ before, isCaret line = false)
    (hcaret : isCaret caret = true) :
    dropEcho (before ++ caret :: after) =
      (before.dropLast ++ after, some (caretColumn caret)) := by
  rcases List.eq_nil_or_concat before with rfl | ⟨above, source, rfl⟩
  · simp [dropEcho, hcaret]
  · rw [List.concat_eq_append] at hbefore ⊢
    rw [List.forall_mem_append, List.forall_mem_singleton] at hbefore
    rw [List.append_assoc, List.singleton_append, List.dropLast_concat]
    exact dropEcho_of_caret after hbefore.1 hbefore.2 hcaret

theorem isCaret_eq_false_iff {line : List Char} : isCaret line = false ↔ ¬ IsCaretLine line := by
  rw [← isCaret_iff, Bool.not_eq_true]

theorem explains_dropEcho (body : List (List Char)) :
    Explains body (details (dropEcho body).1) ((dropEcho body).2) := by
  cases found : body.find? isCaret with
  | none =>
    have plain : ∀ line ∈ body, isCaret line = false := by simpa using found
    rw [dropEcho_of_not_caret plain]
    exact .unpointed fun line member => isCaret_eq_false_iff.mp (plain line member)
  | some caret =>
    obtain ⟨points, before, after, rfl, plain⟩ := List.find?_eq_some_iff_append.mp found
    have plain : ∀ line ∈ before, isCaret line = false := by simpa using plain
    rw [dropEcho_append_caret after plain points, caretColumn_eq_idxOf]
    exact .pointed (fun line member => isCaret_eq_false_iff.mp (plain line member))
      (isCaret_iff.mp points)

/-- A body says one thing only. -/
theorem Explains.eq_dropEcho {body said : List (List Char)} {column : Option Nat}
    (h : Explains body said column) :
    said = details (dropEcho body).1 ∧ column = (dropEcho body).2 := by
  cases h with
  | unpointed plain =>
    rw [dropEcho_of_not_caret fun line member => isCaret_eq_false_iff.mpr (plain line member)]
    exact ⟨rfl, rfl⟩
  | @pointed before after caret plain points =>
    rw [dropEcho_append_caret after
      (fun line member => isCaret_eq_false_iff.mpr (plain line member)) (isCaret_iff.mpr points),
      caretColumn_eq_idxOf]
    exact ⟨rfl, rfl⟩

/-! Headings. -/

namespace Javac

def Cut.located (x : Cut) : Located := ⟨x.file, x.digits, x.severity.kind, x.message⟩

theorem isHeader_iff_exists_cut {line : List Char} : IsHeader line ↔ ∃ x : Cut, x.Of line :=
  ⟨fun ⟨file, digits, severity, message, h⟩ => ⟨⟨file, digits, severity, message⟩, h⟩,
    fun ⟨x, h⟩ => ⟨x.file, x.digits, x.severity, x.message, h⟩⟩

theorem exists_isFirst_of_located? {line : List Char} {l : Located} (h : located? line = some l) :
    ∃ x : Cut, x.IsFirst line ∧ l = x.located := by
  induction line generalizing l with
  | nil => contradiction
  | cons c rest ih =>
    rw [located?] at h
    split at h
    · next digits kind message found =>
      obtain rfl := Option.some.inj h
      obtain ⟨severity, rfl, numeral, rfl⟩ := location?_eq_some_iff.mp found
      refine ⟨⟨[c], digits, severity, message⟩, ⟨⟨by simp, numeral, rfl⟩, fun y cut => ?_⟩, rfl⟩
      exact List.length_pos_iff.mpr cut.1
    · next unmarked =>
      obtain ⟨found, tail, rfl⟩ := Option.map_eq_some_iff.mp h
      obtain ⟨x, ⟨⟨ne_nil, numeral, text⟩, shortest⟩, rfl⟩ := ih tail
      refine ⟨{ x with file := c :: x.file }, ⟨⟨by simp, numeral, by rw [text]; rfl⟩, ?_⟩, rfl⟩
      rintro ⟨file, digits, severity, message⟩ ⟨hfile, hdigits, heq⟩
      cases file with
      | nil => contradiction
      | cons d file =>
        obtain ⟨-, heq⟩ := List.cons.inj heq
        cases file with
        | nil =>
          -- The mark would stand right behind the first character.
          have marked : rest = mark digits severity ++ message := heq
          rw [marked, location?_mark hdigits] at unmarked
          cases unmarked
        | cons e file =>
          exact Nat.succ_le_succ
            (shortest ⟨e :: file, digits, severity, message⟩ ⟨by simp, hdigits, heq⟩)

/-- Two cuts of a line with files of the same length are the same. -/
theorem Cut.located_eq {x y : Cut} {line : List Char} (hx : x.Of line) (hy : y.Of line)
    (same : x.file.length = y.file.length) : x.located = y.located := by
  obtain ⟨-, xNumeral, xText⟩ := hx
  obtain ⟨-, yNumeral, yText⟩ := hy
  obtain ⟨file, behind⟩ := List.append_inj (xText.symm.trans yText) same
  have found := location?_mark xNumeral x.severity x.message
  rw [behind, location?_mark yNumeral] at found
  simp only [Option.some.injEq, Prod.mk.injEq] at found
  obtain ⟨digits, kind, message⟩ := found
  rw [located, located, file, digits, kind, message]

theorem located?_eq_some_iff {line : List Char} {l : Located} :
    located? line = some l ↔ ∃ x : Cut, x.IsFirst line ∧ l = x.located := by
  refine ⟨exists_isFirst_of_located?, ?_⟩
  rintro ⟨x, first, rfl⟩
  cases found : located? line with
  | none => exact absurd (isHeader_iff_exists_cut.mpr ⟨x, first.1⟩) (located?_eq_none_iff.mp found)
  | some l =>
    obtain ⟨y, first', rfl⟩ := exists_isFirst_of_located? found
    have same := Nat.le_antisymm (first'.2 x first.1) (first.2 y first'.1)
    rw [Cut.located_eq first'.1 first.1 same]

theorem Opens.unique {line : List Char} {heading heading' : Heading} (h : Opens line heading)
    (h' : Opens line heading') : heading = heading' := by
  cases h with
  | @located x first =>
    cases h' with
    | @located y first' =>
      have hx := located?_eq_some_iff.mpr ⟨x, first, rfl⟩
      have hy := located?_eq_some_iff.mpr ⟨y, first', rfl⟩
      rw [hx] at hy
      simp only [Cut.located, Option.some.injEq, Located.mk.injEq] at hy
      obtain ⟨file, digits, kind, message⟩ := hy
      rw [file, digits, kind, message]
    | fileless text not_header =>
      exact absurd (isHeader_iff_exists_cut.mpr ⟨x, first.1⟩) not_header
  | fileless text not_header =>
    cases h' with
    | @located y first' => exact absurd (isHeader_iff_exists_cut.mpr ⟨y, first'.1⟩) not_header
    | @fileless severity message text' =>
      have found := severity?_word severity message
      rw [← text', text, severity?_word] at found
      obtain ⟨kind, message⟩ := Prod.mk.inj (Option.some.inj found)
      rw [kind, message]

theorem Opens.isHeader_or_isFileless {line : List Char} {heading : Heading}
    (h : Opens line heading) : IsHeader line ∨ IsFileless line := by
  cases h with
  | @located x first => exact .inl (isHeader_iff_exists_cut.mpr ⟨x, first.1⟩)
  | @fileless severity message text => exact .inr ⟨severity, message, text⟩

end Javac

theorem Ecj.Opens.unique {line : List Char} {heading heading' : Heading} (h : Opens line heading)
    (h' : Opens line heading') : heading = heading' := by
  cases h with
  | @problem number severity file digits hnumber hfile hdigits text =>
    cases h' with
    | @problem number' severity' file' digits' hnumber' hfile' hdigits' text' =>
      have found := heading?_header hnumber hfile hdigits severity
      rw [← text, text', heading?_header hnumber' hfile' hdigits'] at found
      simp only [Option.some.injEq, Prod.mk.injEq] at found
      obtain ⟨kind, file, digits⟩ := found
      rw [kind, file, digits]

theorem Ecj.Opens.isHeader {line : List Char} {heading : Heading} (h : Opens line heading) :
    IsHeader line := by
  cases h with
  | problem hnumber hfile hdigits text => exact ⟨_, _, _, _, hnumber, hfile, hdigits, text⟩

/-! Roles. -/

namespace Format

variable {format : Format} {line : List Char} {lines : List (List Char)}

def Fits (format : Format) (line : List Char) : Role → Prop
  | .opens heading => format.Opens line heading
  | .alone d => ∃ message, format.Notes line message ∧
      d = { kind := .note, message := String.ofList message }
  | .closes => ¬ format.Starts line ∧ ¬ format.IsOrdinary line
  | .body => format.IsOrdinary line

theorem Opens.unique {heading heading' : Heading} (h : format.Opens line heading)
    (h' : format.Opens line heading') : heading = heading' := by
  cases format with
  | javac => exact Javac.Opens.unique h h'
  | ecj => exact Ecj.Opens.unique h h'

theorem Opens.starts {heading : Heading} (h : format.Opens line heading) : format.Starts line := by
  cases format with
  | javac => exact (Javac.Opens.isHeader_or_isFileless h).imp_right .inl
  | ecj => exact Ecj.Opens.isHeader h

theorem Notes.starts {message : List Char} (h : format.Notes line message) :
    format.Starts line := by
  cases format with
  | javac => exact .inr (.inr ⟨message, h.1⟩)
  | ecj => exact h.elim

theorem Notes.not_opens {message : List Char} {heading : Heading} (h : format.Notes line message) :
    ¬ format.Opens line heading := by
  cases format with
  | javac => exact fun opens => (Javac.Opens.isHeader_or_isFileless opens).elim h.2.1 h.2.2
  | ecj => exact h.elim

theorem Notes.unique {message message' : List Char} (h : format.Notes line message)
    (h' : format.Notes line message') : message = message' := by
  cases format with
  | javac => exact List.append_cancel_left (h.1.symm.trans h'.1)
  | ecj => exact h.elim

theorem not_isOrdinary_of_starts (h : format.Starts line) : ¬ format.IsOrdinary line := by
  cases format with
  | javac =>
    rintro ⟨notHeader, notFileless, notNote, -⟩
    rcases h with header | fileless | note
    · exact notHeader header
    · exact notFileless fileless
    · exact notNote note
  | ecj => exact fun ordinary => ordinary.1 h

end Format

theorem Javac.exists_role {line : List Char}
    (readable : ∀ digits, Format.javac.Numbers line digits →
      digits.length ≤ Text.numeralLimit) :
    ∃ found, role line = .ok found ∧ Format.javac.Fits line found := by
  cases located : located? line with
  | some l =>
    obtain ⟨x, first, rfl⟩ := located?_eq_some_iff.mp located
    exact ⟨_, role_of_located located (readable _ ⟨x, first, rfl⟩), .located first⟩
  | none =>
    have notHeader := located?_eq_none_iff.mp located
    cases severity : severity? line with
    | some found =>
      obtain ⟨word, hword, text⟩ := severity?_eq_some_iff.mp severity
      refine ⟨.opens { kind := word.kind, lead := [found.2] }, ?_, .fileless text notHeader⟩
      rw [text] at notHeader ⊢
      exact role_of_fileless notHeader
    | none =>
      have notFileless := severity?_eq_none_iff.mp severity
      cases note : Text.after? "Note: ".toList line with
      | some message =>
        have text := Text.eq_append_of_after? note
        refine ⟨.alone { kind := .note, message := String.ofList message }, ?_, message,
          ⟨text, notHeader, notFileless⟩, rfl⟩
        rw [text] at notHeader ⊢
        exact role_of_note notHeader
      | none =>
        have notNote := note_eq_none_iff.mp note
        by_cases count : IsCount line
        · refine ⟨.closes, role_of_count count, ?_, fun ordinary => ordinary.2.2.2 count⟩
          rintro (header | fileless | isNote)
          · exact notHeader header
          · exact notFileless fileless
          · exact notNote isNote
        · have ordinary : IsOrdinary line := ⟨notHeader, notFileless, notNote, count⟩
          exact ⟨_, role_of_ordinary ordinary, ordinary⟩

theorem Ecj.exists_role {line : List Char}
    (readable : ∀ digits, Format.ecj.Numbers line digits → digits.length ≤ Text.numeralLimit) :
    ∃ found, role line = .ok found ∧ Format.ecj.Fits line found := by
  by_cases header : IsHeader line
  · obtain ⟨number, severity, file, digits, hnumber, hfile, hdigits, text⟩ := header
    have within := readable digits ⟨number, severity, file, hnumber, hfile, hdigits, text⟩
    have read := role_of_header hnumber hfile hdigits within severity
    rw [← text] at read
    exact ⟨_, read, Opens.problem hnumber hfile hdigits text⟩
  · by_cases separator : IsSeparator line
    · refine ⟨.closes, ?_, header, fun ordinary => ordinary.2 separator⟩
      rw [role_of_not_isHeader header, isSeparator_iff.mpr separator]
      rfl
    · exact ⟨_, role_of_ordinary ⟨header, separator⟩, header, separator⟩

theorem Format.exists_role {format : Format} {line : List Char}
    (readable : ∀ digits, format.Numbers line digits → digits.length ≤ Text.numeralLimit) :
    ∃ found, format.role line = .ok found ∧ format.Fits line found := by
  cases format with
  | javac => exact Javac.exists_role readable
  | ecj => exact Ecj.exists_role readable

theorem Javac.length_le_of_role {line : List Char} {found : Role} (h : role line = .ok found) :
    ∀ digits, Format.javac.Numbers line digits → digits.length ≤ Text.numeralLimit := by
  rintro digits ⟨x, first, rfl⟩
  by_contra long
  have located := located?_eq_some_iff.mpr ⟨x, first, rfl⟩
  have unread : Text.readNumeral x.digits = .error ⟨x.digits.length⟩ := if_neg long
  simp [role, located, Cut.located, unread, bind, Except.bind] at h

theorem Ecj.length_le_of_role {line : List Char} {found : Role} (h : role line = .ok found) :
    ∀ digits, Format.ecj.Numbers line digits → digits.length ≤ Text.numeralLimit := by
  rintro digits ⟨number, severity, file, hnumber, hfile, hdigits, rfl⟩
  by_contra long
  have unread : Text.readNumeral digits = .error ⟨digits.length⟩ := if_neg long
  simp [role, heading?_header hnumber hfile hdigits, unread, bind, Except.bind] at h

namespace Format

/-- A line has a role unless its line number is too long to be read. -/
theorem exists_role_iff {format : Format} {line : List Char} :
    (∃ found, format.role line = .ok found) ↔
      ∀ digits, format.Numbers line digits → digits.length ≤ Text.numeralLimit := by
  constructor
  · rintro ⟨found, h⟩
    cases format with
    | javac => exact Javac.length_le_of_role h
    | ecj => exact Ecj.length_le_of_role h
  · intro readable
    obtain ⟨found, h, -⟩ := exists_role readable
    exact ⟨found, h⟩

theorem fits_of_role {format : Format} {line : List Char} {found : Role}
    (h : format.role line = .ok found) : format.Fits line found := by
  obtain ⟨found', h', fits⟩ := exists_role (exists_role_iff.mp ⟨found, h⟩)
  rw [h] at h'
  exact Except.ok.inj h' ▸ fits

theorem rows_eq_ok_iff {format : Format} {lines : List (List Char)}
    {rows : List (List Char × Role)} :
    format.rows lines = .ok rows ↔
      lines = rows.map Prod.fst ∧ ∀ row ∈ rows, format.role row.1 = .ok row.2 := by
  induction lines generalizing rows with
  | nil =>
    constructor
    · rintro ⟨⟩
      simp
    · rintro ⟨empty, -⟩
      rw [List.map_eq_nil_iff.mp empty.symm]
      rfl
  | cons line lines ih =>
    rw [rows_cons]
    constructor
    · intro h
      cases hrole : format.role line with
      | error e => simp [hrole, bind, Except.bind] at h
      | ok role =>
        cases hrest : format.rows lines with
        | error e => simp [hrole, hrest, bind, Except.bind] at h
        | ok rest =>
          simp only [hrole, hrest, bind, Except.bind, pure, Except.pure, Except.ok.injEq] at h
          subst h
          obtain ⟨rfl, roles⟩ := ih.mp hrest
          exact ⟨rfl, List.forall_mem_cons.mpr ⟨hrole, roles⟩⟩
    · rintro ⟨split, roles⟩
      obtain ⟨⟨first, role⟩, rest, rfl, rfl, rfl⟩ := List.map_eq_cons_iff.mp split.symm
      rw [List.forall_mem_cons] at roles
      rw [roles.1, ih.mpr ⟨rfl, roles.2⟩]
      rfl

theorem exists_rows_iff {format : Format} {lines : List (List Char)} :
    (∃ rows, format.rows lines = .ok rows) ↔
      ∀ line ∈ lines, ∃ found, format.role line = .ok found := by
  constructor
  · rintro ⟨rows, h⟩ line member
    obtain ⟨rfl, roles⟩ := rows_eq_ok_iff.mp h
    obtain ⟨row, hrow, rfl⟩ := List.mem_map.mp member
    exact ⟨row.2, roles row hrow⟩
  · intro known
    induction lines with
    | nil => exact ⟨[], rfl⟩
    | cons line lines ih =>
      rw [List.forall_mem_cons] at known
      obtain ⟨⟨role, hrole⟩, others⟩ := known
      obtain ⟨rows, hrows⟩ := ih others
      exact ⟨(line, role) :: rows, by rw [rows_cons, hrole, hrows]; rfl⟩

/-- The lines of a text can be read if its line numbers can. -/
theorem isReadable_iff {format : Format} {s : String} :
    format.IsReadable s ↔ ∃ rows, format.rows (linesOf s.toList) = .ok rows := by
  rw [exists_rows_iff, IsReadable]
  exact forall₂_congr fun line _ => exists_role_iff.symm

end Format

/-! Reading and looking ahead. -/

def bodyRun (rows : List (List Char × Role)) : List (List Char) :=
  (rows.takeWhile (·.2 = .body)).map Prod.fst

/-- The diagnostics of lines with their roles, each block with the body right below it. -/
def lookAhead : List (List Char × Role) → List Diagnostic
  | [] => []
  | (_, .opens heading) :: rest => heading.diagnostic (bodyRun rest) :: lookAhead rest
  | (_, .alone d) :: rest => d :: lookAhead rest
  | (_, .closes) :: rest | (_, .body) :: rest => lookAhead rest

def Reading.extend (r : Reading) (body : List (List Char)) : Reading :=
  { r with opened := r.opened.map fun (heading, earlier) => (heading, earlier ++ body) }

theorem Reading.extend_extend (r : Reading) (first second : List (List Char)) :
    (r.extend first).extend second = r.extend (first ++ second) := by
  obtain ⟨done, opened⟩ := r
  cases opened <;> simp [extend]

theorem Reading.extend_close (r : Reading) (body : List (List Char)) :
    r.close.extend body = r.close := by
  obtain ⟨done, opened⟩ := r
  cases opened <;> rfl

@[simp] theorem Reading.extend_nil (r : Reading) : r.extend [] = r := by
  obtain ⟨done, opened⟩ := r
  cases opened <;> simp [extend]

theorem Reading.step_body (r : Reading) (line : List Char) :
    r.step (line, .body) = r.extend [line] := by
  obtain ⟨done, opened⟩ := r
  cases opened <;> rfl

/-- From any state, the open block gets the body lines that come next; whatever else is read could
be found by looking ahead. -/
theorem Reading.close_foldl_eq_lookAhead (rows : List (List Char × Role)) (r : Reading) :
    (rows.foldl step r).close.done = (r.extend (bodyRun rows)).close.done ++ lookAhead rows := by
  induction rows generalizing r with
  | nil => simp [bodyRun, lookAhead]
  | cons row rows ih =>
    obtain ⟨line, role⟩ := row
    rw [List.foldl_cons, ih]
    cases role with
    | opens heading =>
      have unread : bodyRun ((line, .opens heading) :: rows) = [] := rfl
      simp [unread, step, extend, close, lookAhead]
    | alone d =>
      have unread : bodyRun ((line, .alone d) :: rows) = [] := rfl
      simp [unread, step, extend, close, lookAhead]
    | closes =>
      have unread : bodyRun ((line, .closes) :: rows) = [] := rfl
      have closed : r.step (line, .closes) = r.close := rfl
      rw [unread, closed, extend_close, extend_nil, close_close, lookAhead]
    | body =>
      have next : bodyRun ((line, .body) :: rows) = line :: bodyRun rows := by simp [bodyRun]
      rw [next, step_body, extend_extend, List.singleton_append, lookAhead]

theorem collect_eq_lookAhead (rows : List (List Char × Role)) : collect rows = lookAhead rows :=
  Reading.close_foldl_eq_lookAhead rows {}

/-! What is reported. -/

namespace Format

variable {format : Format}

theorem reports_diagnostic {line : List Char} {heading : Heading}
    (opens : format.Opens line heading) (body : List (List Char)) :
    format.Reports (line, body) (heading.diagnostic body) :=
  .block opens (explains_dropEcho body)

/-- A segment reports one diagnostic only. -/
theorem Reports.unique {segment : List Char × List (List Char)} {d d' : Diagnostic}
    (h : format.Reports segment d) (h' : format.Reports segment d') : d = d' := by
  cases h with
  | block opens explains =>
    cases h' with
    | block opens' explains' =>
      obtain ⟨rfl, rfl⟩ := explains.eq_dropEcho
      obtain ⟨rfl, rfl⟩ := explains'.eq_dropEcho
      rw [opens.unique opens']
    | note notes => exact absurd opens notes.not_opens
  | note notes =>
    cases h' with
    | block opens => exact absurd opens notes.not_opens
    | note notes' => rw [notes.unique notes']

theorem Fits.eq_body_iff {line : List Char} {role : Role} (h : format.Fits line role) :
    role = .body ↔ format.IsOrdinary line := by
  cases role with
  | opens heading => exact iff_of_false nofun (not_isOrdinary_of_starts (Opens.starts h))
  | alone d =>
    obtain ⟨message, notes, -⟩ := h
    exact iff_of_false nofun (not_isOrdinary_of_starts notes.starts)
  | closes => exact iff_of_false nofun h.2
  | body => exact iff_of_true rfl h

theorem bodyRun_eq_takeWhile {rows : List (List Char × Role)}
    (fits : ∀ row ∈ rows, format.Fits row.1 row.2) :
    bodyRun rows = (rows.map Prod.fst).takeWhile (format.IsOrdinary ·) := by
  induction rows with
  | nil => rfl
  | cons row rows ih =>
    rw [List.forall_mem_cons] at fits
    have rest := ih fits.2
    by_cases ordinary : format.IsOrdinary row.1
    · have body := fits.1.eq_body_iff.mpr ordinary
      simpa [bodyRun, body, ordinary] using rest
    · have other := mt fits.1.eq_body_iff.mp ordinary
      simp [bodyRun, other, ordinary]

theorem forall₂_reports_lookAhead {rows : List (List Char × Role)}
    (fits : ∀ row ∈ rows, format.Fits row.1 row.2) :
    List.Forall₂ format.Reports (format.segments (rows.map Prod.fst)) (lookAhead rows) := by
  induction rows with
  | nil => exact .nil
  | cons row rows ih =>
    rw [List.forall_mem_cons] at fits
    obtain ⟨first, others⟩ := fits
    obtain ⟨line, role⟩ := row
    rw [List.map_cons, segments]
    cases role with
    | opens heading =>
      rw [if_pos (Opens.starts first), lookAhead, bodyRun_eq_takeWhile others]
      exact .cons (reports_diagnostic first _) (ih others)
    | alone d =>
      obtain ⟨message, notes, rfl⟩ := first
      rw [if_pos notes.starts, lookAhead]
      exact .cons (.note notes) (ih others)
    | closes =>
      rw [if_neg first.1, lookAhead]
      exact ih others
    | body =>
      rw [if_neg fun starts => not_isOrdinary_of_starts starts first, lookAhead]
      exact ih others

/-- A text that can be read has a diagnostic for each of its segments. -/
theorem exists_reports {s : String} (readable : format.IsReadable s) :
    ∃ found, parse format s = .ok found ∧
      List.Forall₂ format.Reports (format.segments (linesOf s.toList)) found := by
  obtain ⟨rows, h⟩ := isReadable_iff.mp readable
  obtain ⟨lines, roles⟩ := rows_eq_ok_iff.mp h
  refine ⟨lookAhead rows, ?_, ?_⟩
  · rw [parse_eq_rows, h, ← collect_eq_lookAhead]
    rfl
  · rw [lines]
    exact forall₂_reports_lookAhead fun row member => fits_of_role (roles row member)

theorem isReadable_of_parse {s : String} {found : List Diagnostic}
    (h : parse format s = .ok found) : format.IsReadable s := by
  rw [parse_eq_rows] at h
  rw [isReadable_iff]
  cases read : format.rows (linesOf s.toList) with
  | ok rows => exact ⟨rows, rfl⟩
  | error e =>
    rw [read] at h
    cases h

/-- Reading a text tells whether it can be read. -/
instance (s : String) : Decidable (format.IsReadable s) :=
  match read : parse format s with
  | .ok _ => isTrue (isReadable_of_parse read)
  | .error _ => isFalse fun readable => by
    obtain ⟨found, ok, -⟩ := exists_reports readable
    rw [read] at ok
    cases ok

end Format

/-! Lines that nothing is said about. -/

/-- Nothing is open if the last line that is not body has opened nothing. -/
theorem Reading.opened_foldl_eq_none {rows : List (List Char × Role)}
    (h : ∀ row ∈ (rows.filter (·.2 ≠ .body)).getLast?, ∀ heading, row.2 ≠ .opens heading) :
    (rows.foldl step {}).opened = none := by
  induction rows using List.reverseRecOn with
  | nil => rfl
  | append_singleton rows row ih =>
    obtain ⟨line, role⟩ := row
    rw [List.filter_append] at h
    rw [List.foldl_append, List.foldl_cons, List.foldl_nil]
    cases role with
    | opens heading => exact absurd rfl (h (line, .opens heading) (by simp) heading)
    | alone d => rfl
    | closes =>
      change (rows.foldl step {}).close.opened = none
      unfold close
      split
      · next opened => exact opened
      · rfl
    | body =>
      have closed := ih (by simpa using h)
      rw [step_body, extend, closed]
      rfl

theorem collect_idle {before idle after : List (List Char × Role)}
    (closed : (before.foldl Reading.step {}).opened = none) (body : ∀ row ∈ idle, row.2 = .body) :
    collect (before ++ idle ++ after) = collect (before ++ after) := by
  obtain ⟨done, state⟩ : ∃ done, before.foldl Reading.step {} = { done } :=
    ⟨_, congrArg (Reading.mk _) closed⟩
  rw [collect, collect, List.foldl_append, List.foldl_append, List.foldl_append, state,
    Reading.foldl_step_idle fun row member => .inr (body row member)]

theorem filter_not_isOrdinary {format : Format} {rows : List (List Char × Role)}
    (fits : ∀ row ∈ rows, format.Fits row.1 row.2) :
    (rows.map Prod.fst).filter (¬ format.IsOrdinary ·) =
      (rows.filter (·.2 ≠ .body)).map Prod.fst := by
  rw [List.filter_map]
  refine congrArg _ (List.filter_congr fun row member => ?_)
  simpa using (fits row member).eq_body_iff.symm

/-- Ordinary lines where no block is open make no difference. -/
theorem parse_idle {format : Format} {before idle after : List (List Char)} {s t : String}
    (hs : linesOf s.toList = before ++ idle ++ after) (ht : linesOf t.toList = before ++ after)
    (ordinary : ∀ line ∈ idle, format.IsOrdinary line) (closed : ¬ format.LeavesOpen before) :
    parse format s = parse format t := by
  have body : format.rows idle = .ok (idle.map fun line => (line, .body)) := by
    refine Format.rows_eq_ok_iff.mpr ⟨by simp [Function.comp_def], ?_⟩
    intro row member
    obtain ⟨line, hline, rfl⟩ := List.mem_map.mp member
    cases format with
    | javac => exact Javac.role_of_ordinary (ordinary line hline)
    | ecj => exact Ecj.role_of_ordinary (ordinary line hline)
  rw [parse_eq_rows, parse_eq_rows, hs, ht, Format.rows_append, Format.rows_append,
    Format.rows_append, body]
  cases hbefore : format.rows before with
  | error e => rfl
  | ok first =>
    cases format.rows after with
    | error e => rfl
    | ok last =>
      refine congrArg Except.ok (collect_idle (Reading.opened_foldl_eq_none ?_) (by simp))
      obtain ⟨rfl, roles⟩ := Format.rows_eq_ok_iff.mp hbefore
      have fits : ∀ row ∈ first, format.Fits row.1 row.2 := fun row member =>
        Format.fits_of_role (roles row member)
      rintro ⟨line, role⟩ last heading rfl
      have member := List.mem_of_mem_filter (List.mem_of_mem_getLast? last)
      refine closed ⟨line, heading, ?_, fits _ member⟩
      rw [filter_not_isOrdinary fits, List.getLast?_map, last]
      rfl

/-- A text is read exactly if its line numbers can be. Then there is one diagnostic for each line
that starts one, in order, made from that line and the ordinary lines right below it; and ordinary
lines where no block is open could as well be left out. -/
theorem parse_eq_ok_iff_reports (format : Format) (s : String) :
    ((∃ found, parse format s = .ok found) ↔ format.IsReadable s) ∧
    (∀ found, parse format s = .ok found ↔ format.IsReadable s ∧
      List.Forall₂ format.Reports (format.segments (linesOf s.toList)) found) ∧
    ∀ (before idle after : List (List Char)) (t : String),
      linesOf s.toList = before ++ idle ++ after → linesOf t.toList = before ++ after →
      (∀ line ∈ idle, format.IsOrdinary line) → ¬ format.LeavesOpen before →
      parse format s = parse format t := by
  refine ⟨⟨?_, ?_⟩, fun found => ⟨fun read => ?_, ?_⟩, fun before idle after t => parse_idle⟩
  · rintro ⟨found, read⟩
    exact Format.isReadable_of_parse read
  · intro readable
    obtain ⟨found, read, -⟩ := Format.exists_reports readable
    exact ⟨found, read⟩
  · have readable := Format.isReadable_of_parse read
    obtain ⟨found', read', reports⟩ := Format.exists_reports readable
    rw [read] at read'
    exact ⟨readable, Except.ok.inj read' ▸ reports⟩
  · rintro ⟨readable, reports⟩
    obtain ⟨found', read, reports'⟩ := Format.exists_reports readable
    have unique : Relator.RightUnique format.Reports := fun _ _ _ => Format.Reports.unique
    rw [read, List.right_unique_forall₂' unique reports reports']

end PageBuild.Transcript
