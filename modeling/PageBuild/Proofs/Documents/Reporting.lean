import PageBuild.Documents
import PageBuild.Proofs.FileTree.Places
import PageBuild.Proofs.Json.Limits
import PageBuild.Proofs.Text.Utf8

/-! What becomes of a document that is loaded for a model: its value, the fault of the first stage
that fails, or a failure that no stage reports. The latter are told apart by their causes, and a
document within the limits of reading has none of them. -/
namespace PageBuild

namespace Documents

variable {α : Type} {read : Json → Except Schema.Report α} {files : FileTree} {path : String}
  {e : Failure} {j : Json} {a : α}

inductive Stage
  | finding
  | opening
  | parsing
  | validating
  deriving DecidableEq, Repr

def Stage.code : Stage → String
  | .finding => "FILE_NOT_FOUND"
  | .opening => "FILE_READ_ERROR"
  | .parsing => "INVALID_JSON"
  | .validating => "INVALID_CONFIGURATION"

def sought (path : String) : String := (PathName.ofText path).text

/-- The file at a path is the encoding of a text, which has one kind of line end when it is read. -/
def HasText (files : FileTree) (path : String) (text : List Char) : Prop :=
  ∃ s, files.contentOf (sought path) = .ok (Utf8.encode s) ∧ text = Text.unifyLineEnds s.toList

def HasDocument (files : FileTree) (path : String) (j : Json) : Prop :=
  ∃ text, HasText files path text ∧ Json.read text = .ok j

/-- The first stage that fails, and the fault that reports it. -/
inductive FailsAt (read : Json → Except Schema.Report α) (files : FileTree) (path : String) :
    Stage → Failure → Prop
  | finding (absent : files.exists? (sought path) = .ok false) :
    FailsAt read files path .finding (.fault (missing (sought path)))
  | opening {e : OsError} (there : files.exists? (sought path) = .ok true)
    (refused : files.contentOf (sought path) = .error (.os e)) :
    FailsAt read files path .opening (.fault (unreadable (sought path) e))
  | parsing {text : List Char} {what : Json.Mistake} {pos : Nat} (has : HasText files path text)
    (wrong : Json.read text = .error (.mistake what pos)) :
    FailsAt read files path .parsing (.fault (malformed (sought path) (what.report text pos)))
  | validating {j : Json} {r : Schema.Report} (has : HasDocument files path j)
    (refused : read j = .error r) :
    FailsAt read files path .validating (.fault (rejected path r))

/-- The ways of failing that no stage reports. -/
inductive Escapes (files : FileTree) (path : String) : Failure → Prop
  /-- The operating system refuses to tell whether the file is there. -/
  | refused {e : OsError} (unknown : files.exists? (sought path) = .error e) :
    Escapes files path (.refused e)
  /-- The bytes of the file are no text. -/
  | undecodable {bytes : List UInt8} {e : Utf8.Invalid}
    (content : files.contentOf (sought path) = .ok bytes)
    (noText : Utf8.decode bytes = .error e) : Escapes files path (.undecodable e)
  /-- A whole number has too many digits. -/
  | numeral {text : List Char} {e : Text.LongNumeral} (has : HasText files path text)
    (long : Json.read text = .error (.numeral e)) : Escapes files path (.value (.numeral e))
  /-- Containers are nested too deeply. -/
  | nesting {text : List Char} {c : Json.Container} (has : HasText files path text)
    (deep : Json.read text = .error (.nesting c)) : Escapes files path (.nesting c)

/-- The operating system tells whether the file is there, and what is there, if it is a file, is the
encoding of a text within the limits of reading. -/
structure IsModest (files : FileTree) (path : String) : Prop where
  answered : ∃ there, files.exists? (sought path) = .ok there
  text : ∀ bytes, files.contentOf (sought path) = .ok bytes →
    ∃ s, bytes = Utf8.encode s ∧
      Json.IsModest Json.nestingLimit (Text.unifyLineEnds s.toList)

/-- A stage reports its fault under its code. -/
theorem FailsAt.fault {stage : Stage} (h : FailsAt read files path stage e) :
    ∃ f, e = .fault f ∧ f.kind = .file ∧ f.code = some stage.code := by
  cases h <;> exact ⟨_, rfl, rfl, rfl⟩

theorem Escapes.ne_fault (h : Escapes files path e) (f : Fault) : e ≠ .fault f := by
  cases h <;> nofun

/-! The stages one by one. -/

/-- What has content is there. -/
theorem exists?_of_contentOf {p : String} {bytes : List UInt8}
    (content : files.contentOf p = .ok bytes) : files.exists? p = .ok true := by
  unfold FileTree.contentOf at content
  unfold FileTree.exists? FileTree.ask
  split at content
  · cases content
  · cases content
  · next found => rw [found]

/-- What is there is not refused for the text of its path. -/
theorem contentOf_ne_text {p : String} (there : files.exists? p = .ok true) (fault : TextFault) :
    files.contentOf p ≠ .error (.text fault) := by
  unfold FileTree.exists? FileTree.ask at there
  unfold FileTree.contentOf
  split at there
  · next entry found =>
    rw [found]
    cases entry <;> simp
  · cases there
  · next refusal _ =>
    split at there <;> cases there

theorem textOf_eq_ok_iff {text : List Char} :
    textOf files (sought path) = .ok text ↔ HasText files path text := by
  unfold textOf HasText
  constructor
  · intro opened
    split at opened
    · cases opened
    · cases opened
    · next content found =>
      split at opened
      · cases opened
      · next decoded read =>
        obtain rfl := Except.ok.inj opened
        refine ⟨String.ofList decoded, ?_, by rw [String.toList_ofList]⟩
        rw [found, Utf8.decode_eq_ok_iff.mp read]
  · rintro ⟨s, content, rfl⟩
    simp only [content, Utf8.decode_encode]

theorem document_of_refused {refusal : OsError}
    (unknown : files.exists? (sought path) = .error refusal) :
    document files path = .error (.refused refusal) := by
  unfold document
  rw [sought] at unknown
  simp only [unknown]
  rfl

theorem document_of_absent (absent : files.exists? (sought path) = .ok false) :
    document files path = .error (.fault (missing (sought path))) := by
  unfold document
  rw [sought] at absent ⊢
  simp only [absent]
  rfl

theorem document_of_there (there : files.exists? (sought path) = .ok true) :
    document files path = textOf files (sought path) >>= parse (sought path) := by
  unfold document
  rw [sought] at there ⊢
  simp only [there]

theorem document_of_hasText {text : List Char} (has : HasText files path text) :
    document files path = parse (sought path) text := by
  have there : files.exists? (sought path) = .ok true := by
    obtain ⟨s, content, -⟩ := has
    exact exists?_of_contentOf content
  rw [document_of_there there, textOf_eq_ok_iff.mpr has]
  rfl

theorem parse_eq_ok_iff {p : String} {text : List Char} :
    parse p text = .ok j ↔ Json.read text = .ok j := by
  unfold parse
  split <;> simp_all

theorem document_eq_ok_iff : document files path = .ok j ↔ HasDocument files path j := by
  constructor
  · intro loaded
    have there : files.exists? (sought path) = .ok true := by
      unfold document at loaded
      dsimp only at loaded
      split at loaded
      · cases loaded
      · cases loaded
      · next there => exact there
    rw [document_of_there there] at loaded
    obtain ⟨text, opened, parsed⟩ := Except.bind_eq_ok_iff.mp loaded
    exact ⟨text, textOf_eq_ok_iff.mp opened, parse_eq_ok_iff.mp parsed⟩
  · rintro ⟨text, has, parsed⟩
    exact (document_of_hasText has).trans (parse_eq_ok_iff.mpr parsed)

/-- A document that is not read fails at one of the first three stages, or escapes them. -/
theorem failsAt_or_escapes_of_document (read : Json → Except Schema.Report α)
    (failed : document files path = .error e) :
    (∃ stage, FailsAt read files path stage e) ∨ Escapes files path e := by
  cases there : files.exists? (sought path) with
  | error refusal =>
    rw [document_of_refused there] at failed
    cases failed
    exact .inr (.refused there)
  | ok found =>
    cases found with
    | false =>
      rw [document_of_absent there] at failed
      cases failed
      exact .inl ⟨.finding, .finding there⟩
    | true =>
      rw [document_of_there there] at failed
      rcases Except.bind_eq_error_iff.mp failed with unopened | ⟨text, opened, unparsed⟩
      · unfold textOf at unopened
        split at unopened
        · next refused =>
          cases unopened
          exact .inl ⟨.opening, .opening there refused⟩
        · next odd => exact absurd odd (contentOf_ne_text there _)
        · next content found =>
          split at unopened
          · next noText =>
            cases unopened
            exact .inr (.undecodable found noText)
          · cases unopened
      · have has := textOf_eq_ok_iff.mp opened
        unfold parse at unparsed
        split at unparsed
        · cases unparsed
        · next wrong =>
          cases unparsed
          exact .inl ⟨.parsing, .parsing has wrong⟩
        · next long =>
          cases unparsed
          exact .inr (.numeral has long)
        · next deep =>
          cases unparsed
          exact .inr (.nesting has deep)

theorem FailsAt.model_eq {stage : Stage} (h : FailsAt read files path stage e) :
    model read files path = .error e := by
  unfold model
  cases h with
  | finding absent => rw [document_of_absent absent]; rfl
  | opening there refused =>
    rw [document_of_there there]
    simp only [textOf, refused]
    rfl
  | parsing has wrong =>
    rw [document_of_hasText has]
    simp only [parse, wrong]
    rfl
  | validating has refused =>
    rw [document_eq_ok_iff.mpr has]
    simp only [bind, Except.bind, refused]
    rfl

theorem Escapes.document_eq (h : Escapes files path e) : document files path = .error e := by
  cases h with
  | refused unknown => exact document_of_refused unknown
  | undecodable content noText =>
    rw [document_of_there (exists?_of_contentOf content)]
    simp only [textOf, content, noText]
    rfl
  | numeral has long =>
    rw [document_of_hasText has]
    simp only [parse, long]
  | nesting has deep =>
    rw [document_of_hasText has]
    simp only [parse, deep]

/-- A document within the limits escapes no stage. -/
theorem IsModest.not_escapes (modest : IsModest files path) (e : Failure) :
    ¬ Escapes files path e := by
  have inLimits {text : List Char} (has : HasText files path text) :
      Json.IsModest Json.nestingLimit text := by
    obtain ⟨s, content, rfl⟩ := has
    obtain ⟨s', same, limits⟩ := modest.text _ content
    have decoded := (Utf8.decode_encode s).symm.trans
      ((congrArg Utf8.decode same).trans (Utf8.decode_encode s'))
    rwa [Except.ok.inj decoded]
  rintro (⟨unknown⟩ | ⟨content, noText⟩ | ⟨has, long⟩ | ⟨has, deep⟩)
  · obtain ⟨there, answered⟩ := modest.answered
    cases answered.symm.trans unknown
  · obtain ⟨s, rfl, -⟩ := modest.text _ content
    rw [Utf8.decode_encode] at noText
    cases noText
  · obtain ⟨what, pos, same⟩ := Json.exists_mistake_of_read (inLimits has) long
    cases same
  · obtain ⟨what, pos, same⟩ := Json.exists_mistake_of_read (inLimits has) deep
    cases same

/-- Loading gives the value of the document, or fails with the fault of the first stage that fails
under the code of that stage, unless the failure escapes the stages; then it is no fault. Documents
within the limits of reading do not escape. -/
theorem model_reports (read : Json → Except Schema.Report α) (files : FileTree) (path : String) :
    (∀ a, model read files path = .ok a ↔ ∃ j, HasDocument files path j ∧ read j = .ok a) ∧
    (∀ e, model read files path = .error e ↔
      (∃ stage, FailsAt read files path stage e) ∨ Escapes files path e) ∧
    (∀ stage e, FailsAt read files path stage e →
      ∃ f, e = .fault f ∧ f.kind = .file ∧ f.code = some stage.code) ∧
    (∀ e, Escapes files path e → ∀ f, e ≠ .fault f) ∧
    (IsModest files path → ∀ e, ¬ Escapes files path e) := by
  refine ⟨fun a => ?_, fun e => ⟨fun failed => ?_, ?_⟩, fun _ _ => FailsAt.fault,
    fun _ => Escapes.ne_fault, IsModest.not_escapes⟩
  · unfold model
    rw [Except.bind_eq_ok_iff]
    refine exists_congr fun j => and_congr document_eq_ok_iff ?_
    cases read j <;> simp [pure, Except.pure, throw, throwThe, MonadExceptOf.throw]
  · rcases Except.bind_eq_error_iff.mp failed with unread | ⟨j, loaded, refused⟩
    · exact failsAt_or_escapes_of_document read unread
    · split at refused
      · cases refused
      · next wrong =>
        cases refused
        exact .inl ⟨.validating, .validating (document_eq_ok_iff.mp loaded) wrong⟩
  · rintro (⟨stage, fails⟩ | escapes)
    · exact fails.model_eq
    · unfold model
      rw [escapes.document_eq]
      rfl

def oneFile (content : List UInt8) : FileTree where
  entries := [(["c.json"], .file content false)]
  current := []

def emptyObject : FileTree := oneFile (Utf8.encode "\x7b\x7d")

/-- An empty object is within all limits, and lacks the files of a context. -/
theorem model_reports_empty :
    IsModest emptyObject "c.json" ∧ (∀ e, ¬ Escapes emptyObject "c.json" e) ∧
      ∃ f, context emptyObject "c.json" = .error (.fault f) ∧
        f.code = some "INVALID_CONFIGURATION" := by
  have content : emptyObject.contentOf (sought "c.json") = .ok (Utf8.encode "\x7b\x7d") := rfl
  have modest : IsModest emptyObject "c.json" := by
    refine ⟨⟨true, rfl⟩, fun bytes found => ⟨"\x7b\x7d", ?_, ?_⟩⟩
    · exact Except.ok.inj (found.symm.trans content)
    · exact .of_length (by decide) (by decide)
  have document : HasDocument emptyObject "c.json" (.obj []) := ⟨_, ⟨_, content, rfl⟩, rfl⟩
  have fails : FailsAt Context.read emptyObject "c.json" .validating _ := .validating document rfl
  obtain ⟨-, failures, -, -, within⟩ := model_reports Context.read emptyObject "c.json"
  exact ⟨modest, within modest, _, (failures _).mpr (.inl ⟨_, fails⟩), rfl⟩

/-- A byte that starts no character is reported by no stage. -/
theorem not_model_reports :
    ∃ e, context (oneFile [0xFF]) "c.json" = .error e ∧ ∀ f, e ≠ .fault f :=
  ⟨.undecodable ⟨0, 1, 0xFF, .start⟩, rfl, nofun⟩

end Documents
end PageBuild
