import PageBuild.LineMap.SourceMap
import PageBuild.Proofs.Session.Run

/-! Source maps read back. The reader and the writer carry the file of the section before along in
the same way; a section whose file was left out gets it from there. Paths may look like anything,
also like the line that opens the sections, because they come in pairs with a name. -/
namespace PageBuild.SourceMap

/-- What follows a number in a text does not go on with it. -/
def EndsNumber (rest : List Char) : Prop := ∀ c ∈ rest.head?, c.isDigit = false

theorem endsNumber_cons {c : Char} {rest : List Char} (h : c.isDigit = false) :
    EndsNumber (c :: rest) := by
  simpa [EndsNumber] using h

theorem number?_ofNat (n : Nat) {rest : List Char} (h : EndsNumber rest) :
    number? (Decimal.ofNat n ++ rest) = some (n, rest) := by
  have digits : ∀ c ∈ Decimal.ofNat n, c.isDigit = true := fun _ => Decimal.isDigit_of_mem_ofNat
  have stops : rest.takeWhile Char.isDigit = [] ∧ rest.dropWhile Char.isDigit = rest := by
    cases rest with
    | nil => simp
    | cons c rest => simp [h c (by simp)]
  simp only [number?, List.takeWhile_append_of_pos digits, List.dropWhile_append_of_pos digits,
    stops, List.append_nil, Decimal.ofDigitChars_ofNat]
  simp [Decimal.ofNat_ne_nil]

/-- A numeral starts with a digit. -/
theorem head_ofNat (n : Nat) : ∃ c digits, Decimal.ofNat n = c :: digits ∧ c.isDigit = true := by
  cases h : Decimal.ofNat n with
  | nil => exact absurd h (Decimal.ofNat_ne_nil n)
  | cons c digits => exact ⟨c, digits, rfl, Decimal.isDigit_of_mem_ofNat (h ▸ List.mem_cons_self)⟩

theorem signed?_ofInt (n : Int) {rest : List Char} (h : EndsNumber rest) :
    signed? (Decimal.ofInt n ++ rest) = some (n, rest) := by
  by_cases hn : n < 0
  · have back : -(n.natAbs : Int) = n := by omega
    simp only [Decimal.ofInt, if_pos hn, List.cons_append, signed?, number?_ofNat _ h,
      Option.map_some, back]
  · have : (n.natAbs : Int) = n := by omega
    obtain ⟨c, digits, hc, hdigit⟩ := head_ofNat n.natAbs
    have unsigned : c ≠ '-' := by rintro rfl; simp at hdigit
    have read := number?_ofNat n.natAbs h
    rw [hc, List.cons_append] at read
    simp only [Decimal.ofInt, if_neg hn, hc, List.cons_append]
    rw [signed?]
    · simp [read, this]
    · rintro s ⟨⟩
      exact unsigned rfl

def part (mark : Char) : Option Nat → List Char
  | none => []
  | some n => mark :: Decimal.ofNat n

theorem marked?_part (mark : Char) (n? : Option Nat) {rest : List Char} (hnumber : EndsNumber rest)
    (hmark : rest.head? ≠ some mark) : marked? mark (part mark n? ++ rest) = some (n?, rest) := by
  cases n? with
  | some n => simp [part, marked?, number?_ofNat n hnumber]
  | none =>
    cases rest with
    | nil => rfl
    | cons c rest =>
      have : c ≠ mark := by simpa using hmark
      simp [part, marked?, this]

theorem endsNumber_part_append {mark : Char} (h : mark.isDigit = false) (n? : Option Nat)
    {rest : List Char} (hrest : EndsNumber rest) : EndsNumber (part mark n? ++ rest) := by
  cases n? with
  | none => exact hrest
  | some n => exact endsNumber_cons h

theorem marked_eq_ok_iff {mark : Char} {n? : Option Nat} {text : String} :
    LineEntry.marked mark n? = .ok text ↔
      (∀ n ∈ n?, Decimal.IsShort n) ∧ text.toList = part mark n? := by
  cases n? with
  | none => simp [LineEntry.marked, pure, Except.pure, part, eq_comm (a := "")]
  | some n =>
    simp only [LineEntry.marked, Except.bind_eq_ok_iff, Decimal.written_eq_ok_iff]
    constructor
    · rintro ⟨_, ⟨short, rfl⟩, ⟨⟩⟩
      simpa [part] using short
    · rintro ⟨short, same⟩
      refine ⟨_, ⟨short n rfl, rfl⟩, ?_⟩
      rw [← String.ofList_toList (s := text), same]
      simp [pure, Except.pure, part, ← String.toList_inj]

/-- The line of a section is there if the numbers that it gives are short enough, and these are its
parts. -/
theorem smap_eq_ok_iff {e : LineEntry} {previous? : Option Int} {line : String} :
    e.smap previous? = .ok line ↔
      (Decimal.IsShort e.inputStart ∧
        (∀ n ∈ if previous? = some (e.fileId : Int) then none else some e.fileId,
          Decimal.IsShort n) ∧
        (∀ n ∈ if e.inputCount = 1 then none else some e.inputCount, Decimal.IsShort n) ∧
        Decimal.IsShort e.outputStart ∧
        ∀ n ∈ if e.increment = 1 then none else some e.increment, Decimal.IsShort n) ∧
      line.toList =
        Decimal.ofNat e.inputStart ++
        (part '#' (if previous? = some (e.fileId : Int) then none else some e.fileId) ++
        (part ',' (if e.inputCount = 1 then none else some e.inputCount) ++
        (':' :: (Decimal.ofNat e.outputStart ++
        part ',' (if e.increment = 1 then none else some e.increment))))) := by
  simp only [LineEntry.smap, Except.bind_eq_ok_iff, Decimal.written_eq_ok_iff, marked_eq_ok_iff]
  constructor
  · rintro ⟨_, ⟨input, rfl⟩, _, ⟨file, fileText⟩, _, ⟨count, countText⟩, _, ⟨output, rfl⟩, _,
      ⟨increment, incrementText⟩, ⟨⟩⟩
    exact ⟨⟨input, file, count, output, increment⟩,
      by simp [toString, fileText, countText, incrementText]⟩
  · rintro ⟨⟨input, file, count, output, increment⟩, same⟩
    refine ⟨_, ⟨input, rfl⟩, _, ⟨file, String.toList_ofList⟩, _, ⟨count, String.toList_ofList⟩, _,
      ⟨output, rfl⟩, _, ⟨increment, String.toList_ofList⟩, ?_⟩
    rw [← String.ofList_toList (s := line), same]
    simp [pure, Except.pure, ← String.toList_inj, toString]

/-- Leaving a number out where it is a short one hides no long one. -/
theorem isShort_omit_iff {isOmitted : Prop} [Decidable isOmitted] {n : Nat}
    (h : isOmitted → Decimal.IsShort n) :
    (∀ k ∈ if isOmitted then none else some n, Decimal.IsShort k) ↔ Decimal.IsShort n := by
  split <;> simp_all

theorem exists_smap_iff {e : LineEntry} {previous? : Option Int}
    (h : ∀ id ∈ previous?, Decimal.IsShort id) :
    (∃ line, e.smap previous? = .ok line) ↔ ∀ n ∈ e.numbers, Decimal.IsShort n := by
  have one : Decimal.IsShort (1 : Nat) := by decide
  have file : previous? = some (e.fileId : Int) → Decimal.IsShort e.fileId := h _
  have count : e.inputCount = 1 → Decimal.IsShort e.inputCount := fun same => same ▸ one
  have increment : e.increment = 1 → Decimal.IsShort e.increment := fun same => same ▸ one
  simp only [smap_eq_ok_iff, isShort_omit_iff file, isShort_omit_iff count,
    isShort_omit_iff increment, LineEntry.numbers, List.forall_mem_cons]
  constructor
  · rintro ⟨-, ⟨input, file, count, output, increment⟩, -⟩
    exact ⟨input, count, output, increment, file, by simp⟩
  · rintro ⟨input, count, output, increment, file, -⟩
    exact ⟨_, ⟨input, file, count, output, increment⟩, String.toList_ofList⟩

theorem head?_part_append (mark : Char) (n? : Option Nat) (rest : List Char) :
    (part mark n? ++ rest).head? = some mark ∨ (part mark n? ++ rest).head? = rest.head? := by
  cases n? <;> simp [part]

/-- A number that is left out where it is the usual one is known all the same. -/
theorem getD_omit (usual n : Nat) : (if n = usual then none else some n).getD usual = n := by
  split <;> simp [*]

/-- The line of a section is read as that section, if the writer and the reader agree on the file
that was named last. A writer that has named none yet always names one. -/
theorem section?_smap {e : LineEntry} {previous? : Option Int} {line : String}
    (written : e.smap previous? = .ok line) {file : Nat}
    (h : ∀ id, previous? = some id → id = file) : section? file line.toList = some e := by
  rw [(smap_eq_ok_iff.mp written).2]
  generalize hfile : (if previous? = some (e.fileId : Int) then none else some e.fileId) = file?
  have fileId : file?.getD file = e.fileId := by
    subst hfile
    split
    · next same => exact (Int.ofNat_inj.mp (h _ same)).symm
    · rfl
  have count := getD_omit 1 e.inputCount
  have increment := getD_omit 1 e.increment
  generalize (if e.inputCount = 1 then none else some e.inputCount) = count? at count ⊢
  generalize (if e.increment = 1 then none else some e.increment) = increment? at increment ⊢
  -- Each part is read up to the mark of the next one, so they are taken from the last.
  have nothing : EndsNumber [] := by simp [EndsNumber]
  have incrementEnds : EndsNumber (part ',' increment?) := by
    simpa using endsNumber_part_append (by decide) increment? nothing
  have readIncrement : marked? ',' (part ',' increment?) = some (increment?, []) := by
    simpa using marked?_part ',' increment? nothing (by simp)
  have readOutput := number?_ofNat e.outputStart incrementEnds
  generalize Decimal.ofNat e.outputStart ++ part ',' increment? = output at readOutput ⊢
  have outputEnds : EndsNumber (':' :: output) := endsNumber_cons (by decide)
  have readCount := marked?_part ',' count? outputEnds (by simp)
  have countEnds : EndsNumber (part ',' count? ++ ':' :: output) :=
    endsNumber_part_append (by decide) count? outputEnds
  have countHead : (part ',' count? ++ ':' :: output).head? ≠ some '#' := by
    rcases head?_part_append ',' count? (':' :: output) with head | head <;> simp [head]
  generalize part ',' count? ++ ':' :: output = tail at readCount countEnds countHead ⊢
  have readFile := marked?_part '#' file? countEnds countHead
  have fileEnds : EndsNumber (part '#' file? ++ tail) :=
    endsNumber_part_append (by decide) file? countEnds
  have readInput := number?_ofNat e.inputStart fileEnds
  simp [section?, readInput, readFile, readCount, Text.after?, readOutput, readIncrement, fileId,
    count, increment, e.one_le_inputStart, e.one_le_outputStart, e.one_le_inputCount]

/-- No section looks like the end of the map. -/
theorem smap_ne_end {e : LineEntry} {previous? : Option Int} {line : String}
    (written : e.smap previous? = .ok line) : line.toList ≠ ['*', 'E'] := by
  obtain ⟨c, digits, hc, hdigit⟩ := head_ofNat e.inputStart
  rw [(smap_eq_ok_iff.mp written).2, hc, List.cons_append]
  intro h
  rw [(List.cons.inj h).1] at hdigit
  exact absurd hdigit (by decide)

theorem entryLines_cons_eq_ok_iff {e : LineEntry} {entries : List LineEntry}
    {previous? : Option Int} {lines : List String} :
    LineMap.entryLines previous? (e :: entries) = .ok lines ↔
      ∃ line rest, e.smap previous? = .ok line ∧
        LineMap.entryLines (some e.fileId) entries = .ok rest ∧ lines = line :: rest := by
  simp only [LineMap.entryLines, Except.bind_eq_ok_iff]
  constructor
  · rintro ⟨line, first, rest, later, ⟨⟩⟩
    exact ⟨line, rest, first, later, rfl⟩
  · rintro ⟨line, rest, first, later, rfl⟩
    exact ⟨line, first, rest, later, rfl⟩

/-- The number that is left out is the one before it, which is short if it could be written. -/
theorem exists_entryLines_iff {entries : List LineEntry} {previous? : Option Int}
    (h : ∀ id ∈ previous?, Decimal.IsShort id) :
    (∃ lines, LineMap.entryLines previous? entries = .ok lines) ↔
      ∀ e ∈ entries, ∀ n ∈ e.numbers, Decimal.IsShort n := by
  induction entries generalizing previous? with
  | nil => simp [LineMap.entryLines]
  | cons e entries ih =>
    have named (short : ∀ n ∈ e.numbers, Decimal.IsShort n) :
        ∀ id ∈ some (e.fileId : Int), Decimal.IsShort id := by
      rintro _ ⟨⟩
      exact short _ (by simp [LineEntry.numbers])
    simp only [entryLines_cons_eq_ok_iff, List.forall_mem_cons]
    constructor
    · rintro ⟨_, line, rest, first, later, -⟩
      have short := (exists_smap_iff h).mp ⟨line, first⟩
      exact ⟨short, (ih (named short)).mp ⟨rest, later⟩⟩
    · rintro ⟨short, all⟩
      obtain ⟨line, first⟩ := (exists_smap_iff h).mpr short
      obtain ⟨rest, later⟩ := (ih (named short)).mpr all
      exact ⟨_, line, rest, first, later, rfl⟩

theorem sections?_entryLines {entries : List LineEntry} {previous? : Option Int}
    {lines : List String} (written : LineMap.entryLines previous? entries = .ok lines) {file : Nat}
    (h : ∀ id, previous? = some id → id = file) (rest : List (List Char)) :
    sections? file (lines.map String.toList ++ ['*', 'E'] :: rest) = some entries := by
  induction entries generalizing previous? lines file with
  | nil =>
    cases written
    simp [sections?]
  | cons e entries ih =>
    obtain ⟨line, later, first, tail, rfl⟩ := entryLines_cons_eq_ok_iff.mp written
    have later := @ih _ _ tail e.fileId (by simp)
    simp [sections?, smap_ne_end first, section?_smap first h, later]

theorem fileName?_line (id : Int) (name : List Char) :
    fileName? ('+' :: ' ' :: ((Decimal.text id).toList ++ ' ' :: name)) = some (id, name) := by
  have read := signed?_ofInt id (@endsNumber_cons ' ' name (by decide))
  simp [fileName?, Text.after?, Decimal.text, read]

theorem fileLines_eq_ok_iff {f : Int × String} {lines : List String} :
    LineMap.fileLines f = .ok lines ↔ Decimal.IsShort f.1 ∧
      lines = [s!"+ {Decimal.text f.1} {(PathName.ofText f.2).name}",
        String.ofList (f.2.toList.dropWhile (· = '/'))] := by
  simp only [LineMap.fileLines, Except.bind_eq_ok_iff, Decimal.written_eq_ok_iff]
  constructor
  · rintro ⟨_, ⟨short, rfl⟩, ⟨⟩⟩
    exact ⟨short, rfl⟩
  · rintro ⟨short, rfl⟩
    exact ⟨_, ⟨short, rfl⟩, rfl⟩

theorem exists_mapM_fileLines_iff {files : List (Int × String)} :
    (∃ lines, files.mapM LineMap.fileLines = .ok lines) ↔ ∀ f ∈ files, Decimal.IsShort f.1 := by
  simp only [Except.exists_mapM_eq_ok_iff, fileLines_eq_ok_iff]
  simp

theorem files?_fileLines {files : List (Int × String)} {lines : List (List String)}
    (written : files.mapM LineMap.fileLines = .ok lines) (rest : List (List Char)) :
    files? (lines.flatten.map String.toList ++ ['*', 'L'] :: rest) =
      some (files.map fun f => SourceFile.ofPath f.1 f.2, rest) := by
  induction files generalizing lines with
  | nil =>
    cases written
    cases rest <;> simp [files?]
  | cons f files ih =>
    obtain ⟨first, later, named, tail, rfl⟩ := Except.mapM_cons_eq_ok_iff.mp written
    have read := ih tail
    rw [List.map_flatten] at read
    rw [(fileLines_eq_ok_iff.mp named).2]
    simp [files?, toString, fileName?_line, read, SourceFile.ofPath]

theorem oneLine_text (n : Int) : Text.OneLine (Decimal.text n).toList := by
  intro c hc
  rcases Decimal.isDigit_or_minus_of_mem_text hc with h | rfl
  · constructor <;> (rintro rfl; exact absurd h (by decide))
  · decide

theorem oneLine_smap {e : LineEntry} {previous? : Option Int} {line : String}
    (written : e.smap previous? = .ok line) : Text.OneLine line.toList := by
  have number (n : Nat) : Text.OneLine (Decimal.ofNat n) := by simpa using oneLine_text n
  have numbered (mark : Char) (hmark : mark ≠ '\n' ∧ mark ≠ '\r') (n? : Option Nat) :
      Text.OneLine (part mark n?) := by
    cases n? with
    | none => simp [part]
    | some n => simpa [part, number] using hmark
  simp [(smap_eq_ok_iff.mp written).2, number, numbered]

theorem oneLine_of_mem_entryLines {entries : List LineEntry} {previous? : Option Int}
    {lines : List String} (written : LineMap.entryLines previous? entries = .ok lines)
    {line : String} (h : line ∈ lines) : Text.OneLine line.toList := by
  induction entries generalizing previous? lines with
  | nil =>
    cases written
    simp at h
  | cons e entries ih =>
    obtain ⟨line', later, first, tail, rfl⟩ := entryLines_cons_eq_ok_iff.mp written
    rcases List.mem_cons.mp h with rfl | h
    · exact oneLine_smap first
    · exact ih tail h

theorem oneLine_of_mem_fileLines {f : Int × String} (hf : Text.OneLine f.2.toList)
    {lines : List String} (written : LineMap.fileLines f = .ok lines) {line : String}
    (h : line ∈ lines) : Text.OneLine line.toList := by
  rw [(fileLines_eq_ok_iff.mp written).2] at h
  simp only [List.mem_cons, List.not_mem_nil, or_false] at h
  rcases h with rfl | rfl
  · simpa [toString, oneLine_text] using hf.of_subset (PathName.name_ofText_subset f.2)
  · rw [String.toList_ofList]
    exact hf.of_subset (List.dropWhile_suffix _).subset

/-- The lines of a source map, with the lines of its files and of its sections. -/
theorem smapLines_eq_ok_iff {m : LineMap} {lines : List String} :
    m.smapLines = .ok lines ↔ ∃ files sections, m.sortedFiles.mapM LineMap.fileLines = .ok files ∧
      LineMap.entryLines none m.entries = .ok sections ∧
      lines = ["SMAP", (PathName.ofText m.generatedFile).name, m.stratum, s!"*S {m.stratum}", "*F"]
        ++ files.flatten ++ ["*L"] ++ sections ++ ["*E"] := by
  simp only [LineMap.smapLines, Except.bind_eq_ok_iff]
  constructor
  · rintro ⟨files, named, sections, written, ⟨⟩⟩
    exact ⟨files, sections, named, written, rfl⟩
  · rintro ⟨files, sections, named, written, rfl⟩
    exact ⟨files, named, sections, written, rfl⟩

theorem exists_smapLines_iff (m : LineMap) : (∃ lines, m.smapLines = .ok lines) ↔ m.IsWritable := by
  have files : (∀ f ∈ m.sortedFiles, Decimal.IsShort f.1) ↔ ∀ f ∈ m.files, Decimal.IsShort f.1 :=
    forall_congr' fun _ => imp_congr_left m.sortedFiles_perm.mem_iff
  have parts : m.IsWritable ↔ (∀ f ∈ m.files, Decimal.IsShort f.1) ∧
      ∀ e ∈ m.entries, ∀ n ∈ e.numbers, Decimal.IsShort n := by
    simp only [LineMap.IsWritable, LineMap.numbers, List.forall_mem_append, List.forall_mem_map,
      List.forall_mem_flatMap]
  have sections : (∃ lines, LineMap.entryLines none m.entries = .ok lines) ↔
      ∀ e ∈ m.entries, ∀ n ∈ e.numbers, Decimal.IsShort n :=
    exists_entryLines_iff (by simp)
  rw [parts, ← files, ← exists_mapM_fileLines_iff, ← sections]
  simp only [smapLines_eq_ok_iff]
  constructor
  · rintro ⟨_, files, sections, named, written, -⟩
    exact ⟨⟨files, named⟩, sections, written⟩
  · rintro ⟨⟨files, named⟩, sections, written⟩
    exact ⟨_, files, sections, named, written, rfl⟩

theorem smap_eq_ok_iff_exists_lines {m : LineMap} {text : String} :
    m.smap = .ok text ↔ ∃ lines, m.smapLines = .ok lines ∧ text = Text.join "\n" lines ++ "\n" := by
  simp only [LineMap.smap, Except.bind_eq_ok_iff]
  constructor
  · rintro ⟨lines, written, ⟨⟩⟩
    exact ⟨lines, written, rfl⟩
  · rintro ⟨lines, written, rfl⟩
    exact ⟨lines, written, rfl⟩

theorem exists_smap_iff_isWritable {m : LineMap} : (∃ text, m.smap = .ok text) ↔ m.IsWritable := by
  rw [← exists_smapLines_iff]
  simp only [smap_eq_ok_iff_exists_lines]
  constructor
  · rintro ⟨_, lines, written, -⟩
    exact ⟨lines, written⟩
  · rintro ⟨lines, written⟩
    exact ⟨_, lines, written, rfl⟩

theorem oneLine_of_mem_smapLines {m : LineMap} (hgenerated : Text.OneLine m.generatedFile.toList)
    (hstratum : Text.OneLine m.stratum.toList)
    (hfiles : ∀ f ∈ m.files, Text.OneLine f.2.toList) {lines : List String}
    (written : m.smapLines = .ok lines) {line : String} (h : line ∈ lines) :
    Text.OneLine line.toList := by
  obtain ⟨files, sections, named, entered, rfl⟩ := smapLines_eq_ok_iff.mp written
  simp only [List.mem_append, List.mem_cons, List.not_mem_nil, or_false, List.mem_flatten] at h
  rcases h with ((((rfl | rfl | rfl | rfl | rfl) | ⟨pair, hpair, h⟩) | rfl) | h) | rfl
  · decide
  · exact hgenerated.of_subset (PathName.name_ofText_subset _)
  · exact hstratum
  · simpa [toString] using hstratum
  · decide
  · obtain ⟨f, hf, named⟩ := Except.exists_of_mem_mapM named hpair
    exact oneLine_of_mem_fileLines (hfiles f (m.sortedFiles_perm.mem_iff.mp hf)) named h
  · decide
  · exact oneLine_of_mem_entryLines entered h
  · decide

theorem ofLines?_smapLines {m : LineMap} {lines : List String} (written : m.smapLines = .ok lines)
    (rest : List (List Char)) :
    ofLines? (lines.map String.toList ++ rest) = some {
      generated := (PathName.ofText m.generatedFile).name
      defaultStratum := m.stratum
      stratum := m.stratum
      files := m.sortedFiles.map fun f => SourceFile.ofPath f.1 f.2
      sections := m.entries } := by
  obtain ⟨files, sections, named, entered, rfl⟩ := smapLines_eq_ok_iff.mp written
  have files := files?_fileLines named (sections.map String.toList ++ ['*', 'E'] :: rest)
  have sections := @sections?_entryLines _ _ _ entered 0 (by simp) rest
  rw [List.map_flatten] at files
  simp [ofLines?, Text.after?, toString, files, sections]

/-- Lines joined into a text are the lines of the text, and an empty one after the last end. -/
theorem splitOn_joined {lines : List String} (hne : lines ≠ [])
    (h : ∀ line ∈ lines, Text.OneLine line.toList) :
    Text.splitOn '\n' (Text.unifyLineEnds (Text.join "\n" lines ++ "\n").toList) =
      lines.map String.toList ++ [[]] := by
  rw [Text.toList_join_append hne]
  have feed : ∀ f ∈ lines.map String.toList, '\n' ∉ f := by
    intro f hf hc
    obtain ⟨line, hline, rfl⟩ := List.mem_map.mp hf
    exact (h line hline _ hc).1 rfl
  have noReturn : '\r' ∉ (lines.map String.toList).flatMap (· ++ "\n".toList) := by
    intro hc
    obtain ⟨f, hf, hc⟩ := List.mem_flatMap.mp hc
    obtain ⟨line, hline, rfl⟩ := List.mem_map.mp hf
    rcases List.mem_append.mp hc with hc | hc
    · exact (h line hline _ hc).2 rfl
    · exact absurd hc (by decide)
  rw [Text.unifyLineEnds_eq_self noReturn]
  exact Text.splitOn_flatMap feed

/-- A map has a source map if all its numbers are short enough to be written, and it is read back:
the base name of the generated file, the stratum, the files in ascending order of their numbers, and
every section with all that it says. -/
theorem read_smap {m : LineMap} (hgenerated : Text.OneLine m.generatedFile.toList)
    (hstratum : Text.OneLine m.stratum.toList)
    (hfiles : ∀ f ∈ m.files, Text.OneLine f.2.toList) :
    ((∃ text, m.smap = .ok text) ↔ m.IsWritable) ∧
    ∀ text, m.smap = .ok text → ∃ files : List (Int × String),
      files.Perm m.files ∧ files.Pairwise (fun a b => a.1 ≤ b.1) ∧
      read text = some {
        generated := (PathName.ofText m.generatedFile).name
        defaultStratum := m.stratum
        stratum := m.stratum
        files := files.map fun f => SourceFile.ofPath f.1 f.2
        sections := m.entries } := by
  refine ⟨exists_smap_iff_isWritable, fun text done => ?_⟩
  obtain ⟨lines, written, rfl⟩ := smap_eq_ok_iff_exists_lines.mp done
  have nonempty : lines ≠ [] := by
    obtain ⟨files, sections, -, -, rfl⟩ := smapLines_eq_ok_iff.mp written
    simp
  refine ⟨m.sortedFiles, m.sortedFiles_perm, m.sortedFiles_pairwise, ?_⟩
  rw [read, splitOn_joined nonempty
    fun _ => oneLine_of_mem_smapLines hgenerated hstratum hfiles written]
  exact ofLines?_smapLines written [[]]

/-- A map whose names look like the marks of a source map. -/
def lookalike : LineMap where
  generatedFile := "gen/*E"
  className := "A"
  stratum := "*F"
  files := [(3, "/*L"), (-1, "+ 0 x"), (0, "//")]
  entries := [
    { inputStart := 2, outputStart := 1, fileId := 3, one_le_inputStart := Nat.two_pos
      one_le_outputStart := Nat.one_pos, one_le_inputCount := Nat.one_pos },
    { inputStart := 1, outputStart := 2, inputCount := 2, increment := 0, fileId := 3
      one_le_inputStart := Nat.one_pos, one_le_outputStart := Nat.two_pos
      one_le_inputCount := Nat.two_pos },
    { inputStart := 1, outputStart := 2, increment := 2, one_le_inputStart := Nat.one_pos
      one_le_outputStart := Nat.two_pos, one_le_inputCount := Nat.one_pos }]

theorem read_smap_lookalike :
    Text.OneLine lookalike.generatedFile.toList ∧ Text.OneLine lookalike.stratum.toList ∧
      (∀ f ∈ lookalike.files, Text.OneLine f.2.toList) ∧
      ∃ text, lookalike.smap = .ok text ∧ ∃ files : List (Int × String),
        files.Perm lookalike.files ∧ files.Pairwise (fun a b => a.1 ≤ b.1) ∧
        read text = some {
          generated := (PathName.ofText lookalike.generatedFile).name
          defaultStratum := lookalike.stratum
          stratum := lookalike.stratum
          files := files.map fun f => SourceFile.ofPath f.1 f.2
          sections := lookalike.entries } := by
  have readable := @read_smap lookalike (by decide) (by decide) (by decide)
  obtain ⟨text, written⟩ := readable.1.mpr (by decide)
  exact ⟨by decide, by decide, by decide, text, written, readable.2 text written⟩

def distant : LineMap where
  generatedFile := "A.java"
  className := "A"
  files := [(0, "a.jsp")]
  entries := [{
    inputStart := Decimal.overlong, outputStart := 1
    one_le_inputStart := Decimal.one_le_beyond _, one_le_outputStart := Nat.one_pos
    one_le_inputCount := Nat.one_pos }]

theorem smap_distant : distant.IsConsistent ∧ Text.OneLine distant.generatedFile.toList ∧
    Text.OneLine distant.stratum.toList ∧ (∀ f ∈ distant.files, Text.OneLine f.2.toList) ∧
    distant.smap = .error {} := by
  refine ⟨by decide, by decide, by decide, by decide, ?_⟩
  cases written : distant.smap with
  | ok text =>
    have writable := exists_smap_iff_isWritable.mp ⟨text, written⟩
    have first : (Decimal.overlong : Int) ∈ distant.numbers :=
      List.mem_append_right _ (List.mem_flatMap.mpr
        ⟨_, List.mem_singleton_self _, List.mem_cons_self⟩)
    exact absurd (writable _ first) Decimal.not_isShort_overlong
  | error e => rfl

end PageBuild.SourceMap
