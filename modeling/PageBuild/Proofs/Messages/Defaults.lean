import Mathlib.Data.Fin.VecNotation
import PageBuild.Messages
import PageBuild.Template.Simple

/-! The messages of a bundle that changes nothing. Their templates are plain, so a message can be
said whenever its arguments have texts; of all arguments only a number can be too long for that. -/
namespace PageBuild

open Template

namespace MessageKey

/-- The characters of a literal, without a run of its decoder. -/
theorem toList_of_eq_ofList (s : String) {characters : List Char}
    (h : s = String.ofList characters) : s.toList = characters := by
  rw [h, String.toList_ofList]

def plain (key : MessageKey) : Plain where
  lead := (Plain.cut key.template.toList).1
  places := (Plain.cut key.template.toList).2
  isPlain_lead := by cases key <;> rw [toList_of_eq_ofList (template _) rfl] <;> decide
  isPlain_places := by cases key <;> rw [toList_of_eq_ofList (template _) rfl] <;> decide

theorem written_plain (key : MessageKey) : String.ofList key.plain.written = key.template := by
  have whole : (Plain.cut key.template.toList).1 ++
      Plain.writePlaces (Plain.cut key.template.toList).2 = key.template.toList := by
    cases key <;> rw [toList_of_eq_ofList (template _) rfl] <;> decide
  rw [Plain.written, plain, whole, String.ofList_toList]

end MessageKey

namespace Messages

theorem find?_default (key : MessageKey) :
    ({} : Messages).find? key.name = some (.str key.template) := by
  cases key <;> rfl

theorem say_default {key : MessageKey} {arguments : List Value} (texts : Fin 10 → List Char)
    (given : ∀ place ∈ key.plain.places, Plain.HasText .plain arguments place.1 (texts place.1)) :
    ({} : Messages).say key arguments = .ok (String.ofList (key.plain.filled texts)) := by
  have filled := key.plain.fill_written given
  rw [MessageKey.written_plain] at filled
  rw [say, message, find?_default]
  simp only [fill, filled]

/-- A message of the bundle fails only for an argument that has no text. -/
theorem exists_template_of_say {key : MessageKey} {arguments : List Value} {e : Failure}
    (failed : ({} : Messages).say key arguments = .error e) : ∃ m, e = .value (.template m) := by
  rw [say, message, find?_default] at failed
  simp only [fill] at failed
  cases filled : Template.fill .plain key.template arguments with
  | ok s => simp [filled] at failed
  | error fault =>
    rw [← MessageKey.written_plain] at filled
    rw [← MessageKey.written_plain, filled] at failed
    rcases key.plain.fault_of_fill filled with rfl | ⟨m, rfl⟩
    · cases failed
    · exact ⟨m, (Except.error.inj failed).symm⟩

def two (first second : List Char) : Fin 10 → List Char :=
  ![first, second, [], [], [], [], [], [], [], []]

theorem cut_lineUnmapped : Plain.cut (MessageKey.template .lineUnmapped).toList =
    ("Unable to map line [".toList,
      [(1, "] of generated file [".toList), (0, "] to the page source".toList)]) := by
  rw [MessageKey.toList_of_eq_ofList (MessageKey.template _) rfl]
  decide

theorem say_lineUnmapped (source : String) {line : Int}
    (h : Decimal.length line.natAbs ≤ Text.numeralLimit) :
    ({} : Messages).say .lineUnmapped [.text source, .int line] = .ok
      s!"Unable to map line [{Decimal.text line}] of generated file [{source}] to the page source" := by
  rw [say_default (two source.toList (Decimal.ofInt line))]
  · simp only [Plain.filled, Plain.fillPlaces, MessageKey.plain, cut_lineUnmapped]
    simp [← String.toList_inj, two, Decimal.text, toString]
  · simp [MessageKey.plain, cut_lineUnmapped, Plain.HasText, Value.text?, two, Nat.not_lt.mpr h]

/-- A line that is too long to be written keeps its message from being said. -/
theorem say_lineUnmapped_of_long (source : String) {line : Int}
    (long : Text.numeralLimit < Decimal.length line.natAbs) :
    ({} : Messages).say .lineUnmapped [.text source, .int line] =
      .error (.value (.template .longNumeral)) := by
  have first : (MessageKey.plain .lineUnmapped).places =
      [(1, "] of generated file [".toList), (0, "] to the page source".toList)] :=
    congrArg Prod.snd cut_lineUnmapped
  have silent : (Value.int line).text? .plain = .error (.mistake .longNumeral) := if_pos long
  have failed : Template.fill .plain (String.ofList (MessageKey.plain .lineUnmapped).written)
      [.text source, .int line] = .error (.mistake .longNumeral) :=
    Plain.fill_of_fault _ first rfl silent
  rw [MessageKey.written_plain] at failed
  rw [say, message, find?_default]
  simp only [fill, failed]

theorem say_backendNotFound (name : String) :
    ({} : Messages).say .backendNotFound [.text name] = .ok
      s!"No Java compiler was found ({name}). Install a JDK or set JAVA_HOME." := by
  have cut : Plain.cut (MessageKey.template .backendNotFound).toList =
      ("No Java compiler was found (".toList,
        [(0, "). Install a JDK or set JAVA_HOME.".toList)]) := by
    rw [MessageKey.toList_of_eq_ofList (MessageKey.template _) rfl]
    decide
  rw [say_default (two name.toList [])]
  · simp only [Plain.filled, Plain.fillPlaces, MessageKey.plain, cut]
    simp [← String.toList_inj, two, toString]
  · simp [MessageKey.plain, cut, Plain.HasText, Value.text?, two]

/-- What a template of two places makes of a code and of what is told about it. -/
theorem say_code {key : MessageKey} {lead words : List Char}
    (cut : Plain.cut key.template.toList = (lead, [(0, words), (1, [])])) {code : Int}
    (h : Decimal.length code.natAbs ≤ Text.numeralLimit) (about : String) :
    ({} : Messages).say key [.int code, .text about] =
      .ok (String.ofList (lead ++ (Decimal.ofInt code ++ (words ++ about.toList)))) := by
  rw [say_default (two (Decimal.ofInt code) about.toList)]
  · simp [Plain.filled, Plain.fillPlaces, MessageKey.plain, cut, two]
  · simp [MessageKey.plain, cut, Plain.HasText, Value.text?, two, Nat.not_lt.mpr h]

theorem say_backendFault {code : Int} (h : Decimal.length code.natAbs ≤ Text.numeralLimit)
    (about : String) :
    ({} : Messages).say .backendFault [.int code, .text about] = .ok
      s!"The Java compiler failed with exit code [{Decimal.text code}]: {about}" := by
  have cut : Plain.cut (MessageKey.template .backendFault).toList =
      ("The Java compiler failed with exit code [".toList, [(0, "]: ".toList), (1, [])]) := by
    rw [MessageKey.toList_of_eq_ofList (MessageKey.template _) rfl]
    decide
  rw [say_code cut h]
  simp [← String.toList_inj, Decimal.text, toString]

theorem say_unparsedFailure {code : Int} (h : Decimal.length code.natAbs ≤ Text.numeralLimit)
    (about : String) :
    ({} : Messages).say .unparsedFailure [.int code, .text about] = .ok
      s!"The Java compiler exited with code [{Decimal.text code}] without reporting an error: {about}" := by
  have cut : Plain.cut (MessageKey.template .unparsedFailure).toList =
      ("The Java compiler exited with code [".toList,
        [(0, "] without reporting an error: ".toList), (1, [])]) := by
    rw [MessageKey.toList_of_eq_ofList (MessageKey.template _) rfl]
    decide
  rw [say_code cut h]
  simp [← String.toList_inj, Decimal.text, toString]

theorem say_diagnosticIncomplete (message : String) :
    ({} : Messages).say .diagnosticIncomplete [.text message] = .ok
      s!"Compiler error reported without a source file or line: {message}" := by
  have cut : Plain.cut (MessageKey.template .diagnosticIncomplete).toList =
      ("Compiler error reported without a source file or line: ".toList, [(0, [])]) := by
    rw [MessageKey.toList_of_eq_ofList (MessageKey.template _) rfl]
    decide
  rw [say_default (two message.toList [])]
  · simp only [Plain.filled, Plain.fillPlaces, MessageKey.plain, cut]
    simp [← String.toList_inj, two, toString]
  · simp [MessageKey.plain, cut, Plain.HasText, Value.text?, two]

theorem say_smapInstallFailed (name : String) (refusal : OsError) :
    ({} : Messages).say .smapInstallFailed [.text name, .refusal refusal] = .ok
      s!"Unable to install SMAP for class [{name}]: {refusal.message}" := by
  have cut : Plain.cut (MessageKey.template .smapInstallFailed).toList =
      ("Unable to install SMAP for class [".toList, [(0, "]: ".toList), (1, [])]) := by
    rw [MessageKey.toList_of_eq_ofList (MessageKey.template _) rfl]
    decide
  rw [say_default (two name.toList refusal.message.toList)]
  · simp only [Plain.filled, Plain.fillPlaces, MessageKey.plain, cut]
    simp [← String.toList_inj, two, toString]
  · simp [MessageKey.plain, cut, Plain.HasText, Value.text?, two]

theorem say_sourceDeleteFailed (source : PathName) :
    ({} : Messages).say .sourceDeleteFailed [.path source] = .ok
      s!"Failed to delete generated Java file [{source.text}]" := by
  have cut : Plain.cut (MessageKey.template .sourceDeleteFailed).toList =
      ("Failed to delete generated Java file [".toList, [(0, "]".toList)]) := by
    rw [MessageKey.toList_of_eq_ofList (MessageKey.template _) rfl]
    decide
  rw [say_default (two source.text.toList [])]
  · simp only [Plain.filled, Plain.fillPlaces, MessageKey.plain, cut]
    simp [← String.toList_inj, two, toString]
  · simp [MessageKey.plain, cut, Plain.HasText, Value.text?, two]

end Messages
end PageBuild
