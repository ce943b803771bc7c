import PageBuild.Proofs.Handle.Judge
import PageBuild.Proofs.Session.Failures
import PageBuild.Proofs.Transcript.Segments

/-! Whether a handle trusts its compiler, and what it says if it does not. The transcript decides
together with the exit code; what a transcript can say at all is settled by its format. -/
namespace PageBuild

open Session Transcript

namespace Transcript.Format

variable {format : Format} {segment : List Char × List (List Char)} {d : Diagnostic}

/-- An error with a source comes from a header. -/
theorem Reports.isErrorHeader (h : format.Reports segment d) (error : d.isError = true)
    (sourced : d.source ≠ none) : format.IsErrorHeader segment.1 ∧ d.line ≠ none := by
  cases h with
  | note notes => cases error
  | block opens explains =>
    cases format with
    | javac =>
      cases opens with
      | @located x first =>
        refine ⟨⟨x, first, ?_⟩, by simp⟩
        cases severity : x.severity with
        | error => rfl
        | warning => simp [severity, Javac.Severity.kind, Diagnostic.isError] at error
      | fileless text => exact absurd rfl sourced
    | ecj =>
      cases opens with
      | @problem number severity file digits hnumber hfile hdigits text =>
        cases severity with
        | error => exact ⟨⟨number, file, digits, hnumber, hfile, hdigits, text⟩, by simp⟩
        | warning => cases error
        | info => cases error

/-- In this format nothing but headers is reported. -/
theorem Reports.source_ne_none (h : Format.ecj.Reports segment d) : d.source ≠ none := by
  cases h with
  | note notes => exact notes.elim
  | block opens explains => cases opens with | problem => simp

theorem mem_of_mem_segments {lines : List (List Char)} (h : segment ∈ format.segments lines) :
    segment.1 ∈ lines := by
  induction lines with
  | nil => cases h
  | cons line rest ih =>
    rw [segments] at h
    split at h
    · rcases List.mem_cons.mp h with rfl | later
      · exact List.mem_cons_self
      · exact List.mem_cons_of_mem _ (ih later)
    · exact List.mem_cons_of_mem _ (ih h)

/-- Whatever is reported has a segment that reports it. -/
theorem exists_reports_of_mem {segments : List (List Char × List (List Char))}
    {found : List Diagnostic} (reports : List.Forall₂ format.Reports segments found)
    (member : d ∈ found) : ∃ segment ∈ segments, format.Reports segment d := by
  induction reports with
  | nil => cases member
  | cons reported _ ih =>
    rcases List.mem_cons.mp member with rfl | later
    · exact ⟨_, List.mem_cons_self, reported⟩
    · obtain ⟨segment, inside, reported⟩ := ih later
      exact ⟨segment, List.mem_cons_of_mem _ inside, reported⟩

end Transcript.Format

namespace Handle

variable {h : Handle} {c : Completion} {found : List Diagnostic}

structure Trusts (h : Handle) (code : Int) (found : List Diagnostic) : Prop where
  known : code ∈ h.successCodes
  sourced : ∀ d ∈ found, d.isError = true → d.source ≠ none
  spoken : code = 0 ∨ ∃ d ∈ found, d.isError = true

def strayText (found : List Diagnostic) : String :=
  Text.join "; " ((found.filter fun d => d.isError && d.source.isNone).map (·.message))

/-- What a handle objects to, as a code and a message. The code of the process comes first, then
errors without a source, then an error that is missing. -/
inductive Objects (h : Handle) (c : Completion) (found : List Diagnostic) :
    (code message : String) → Prop
  | abnormal (unknown : c.code ∉ h.successCodes) : Objects h c found "BACKEND_FAULT"
      s!"The Java compiler failed with exit code [{Decimal.text c.code}]: {c.text}"
  | stray (known : c.code ∈ h.successCodes)
      (unsourced : ∃ d ∈ found, d.isError = true ∧ d.source = none) :
      Objects h c found "INVALID_COMMAND_LINE"
        s!"The Java compiler failed with exit code [{Decimal.text c.code}]: {strayText found}"
  | silent (known : c.code ∈ h.successCodes) (failed : c.code ≠ 0)
      (unspoken : ∀ d ∈ found, d.isError = false) : Objects h c found "UNPARSED_FAILURE"
      s!"The Java compiler exited with code [{Decimal.text c.code}] without reporting an error: {c.text}"

theorem exists_objects (h : Handle) (c : Completion) (found : List Diagnostic)
    (untrusted : ¬ h.Trusts c.code found) : ∃ code message, h.Objects c found code message := by
  by_cases known : c.code ∈ h.successCodes
  · by_cases unsourced : ∃ d ∈ found, d.isError = true ∧ d.source = none
    · exact ⟨_, _, .stray known unsourced⟩
    · have sourced : ∀ d ∈ found, d.isError = true → d.source ≠ none :=
        fun d member error none => unsourced ⟨d, member, error, none⟩
      have failed : c.code ≠ 0 := fun zero => untrusted ⟨known, sourced, .inl zero⟩
      refine ⟨_, _, .silent known failed fun d member => ?_⟩
      rw [← Bool.not_eq_true]
      exact fun error => untrusted ⟨known, sourced, .inr ⟨d, member, error⟩⟩
  · exact ⟨_, _, .abnormal known⟩

theorem Objects.unsourced {code message : String} (objects : h.Objects c found code message)
    (stray : code = "INVALID_COMMAND_LINE") :
    ∃ d ∈ found, d.isError = true ∧ d.source = none := by
  cases objects with
  | abnormal => exact absurd stray (by decide)
  | stray known unsourced => exact unsourced
  | silent => exact absurd stray (by decide)

theorem judge_of_trusts (read : parse h.format c.text = .ok found) (trusts : h.Trusts c.code found) :
    h.judge c = .ok found :=
  judge_eq_ok_iff.mpr ⟨trusts.known, read, trusts.sourced, trusts.spoken⟩

/-- The objections of a handle are its faults. -/
theorem judge_of_objects (messages : h.messages = {})
    (fits : Decimal.length c.code.natAbs ≤ Text.numeralLimit)
    (read : parse h.format c.text = .ok found) {code message : String}
    (objects : h.Objects c found code message) :
    h.judge c = .error (.fault {
      kind := .backend, message, code := some code
      facts := [("command", .texts c.command), ("return_code", .int c.code),
        ("stderr", .text c.errors)] }) := by
  unfold judge
  cases objects with
  | abnormal unknown =>
    rw [if_pos (by simpa using unknown), fault, messages, Messages.say_backendFault fits]
    rfl
  | stray known unsourced =>
    have stray : (found.filter fun d => d.isError && d.source.isNone) ≠ [] := by
      simpa [List.filter_eq_nil_iff] using unsourced
    rw [if_neg (by simpa using known)]
    simp only [read]
    rw [if_pos (by simpa using stray), fault, messages, Messages.say_backendFault fits]
    rfl
  | silent known failed unspoken =>
    have sourced : (found.filter fun d => d.isError && d.source.isNone) = [] := by
      rw [List.filter_eq_nil_iff]
      intro d member
      simp [unspoken d member]
    rw [if_neg (by simpa using known)]
    simp only [read, sourced]
    rw [if_neg (by simp), if_pos (by simpa [failed] using unspoken), fault, messages,
      Messages.say_unparsedFailure fits]
    rfl

variable {options sources : List String} {s : Session} {launch : Launch}

theorem command_of_started
    (started : (after (h.compile options sources) s).launches = s.launches ++ [launch])
    {command : List String} {s₁ : Session}
    (prepared : h.prepare (h.arguments options sources) s = .ok command s₁) :
    launch.command = command ∧ launch.timeout = h.timeout := by
  have one : StartsOne (fun launch => launch.command = command ∧ launch.timeout = h.timeout)
      (h.compile options sources) s := by
    refine startsOne_compile_of fun command' s₂ prepared' => ?_
    rw [prepared] at prepared'
    cases prepared'
    exact ⟨rfl, rfl⟩
  rcases one.after with ⟨unchanged, -⟩ | ⟨launch', kind, launched⟩
  · rw [unchanged] at started
    simp at started
  · rw [launched] at started
    obtain rfl : launch' = launch := by simpa using started
    exact kind

/-- A handle that starts a process judges it by its ending. -/
theorem exists_compile_eq
    (started : (after (h.compile options sources) s).launches = s.launches ++ [launch])
    (ending : Command.complete launch.command launch.timeout s.nextEnding = .ok c) :
    ∃ s₁, h.compile options sources s = Session.ofExcept (h.judge c) s₁ := by
  obtain ⟨_, s₁, required, opened⟩ :=
    exists_ok_of_launched (steady_launches.keeps_requireOpen h) started
  obtain rfl := eq_of_requireOpen required
  obtain ⟨command, s₂, prepared, running⟩ :=
    exists_ok_of_launched (steady_launches.keeps_prepare h _)
      ((congrArg launches (after_congr_at opened)).symm.trans started)
  obtain ⟨rfl, timeout⟩ := command_of_started started prepared
  have next := (steady_nextEnding.keeps_prepare h _).of_ok prepared
  have run := Command.run_eq launch.command h.timeout none [] s₂
  rw [next, ← timeout, ending, timeout] at run
  exact ⟨_, opened.trans (running.trans (bind_of_ok run))⟩

theorem command_of_ended {command : List String} {timeout : Option Quantity} {ending : Ending}
    (h : Command.ended command timeout ending = .ok c) : c.command = command := by
  induction ending generalizing c with
  | exited code output errors => rw [(Command.ended_exited_eq_ok_iff.mp h).2]
  | timedOut =>
    obtain ⟨text, -, ⟨⟩⟩ := Except.bind_eq_ok_iff.mp h
    rfl
  | notStarted => cases command <;> cases h; rfl
  | notExecutable errno =>
    cases command with
    | nil => cases h
    | cons program rest =>
      unfold Command.ended at h
      dsimp only at h
      split at h <;> cases h
      rfl
  | timed time ending ih =>
    obtain ⟨c', ended, checked⟩ := Except.bind_eq_ok_iff.mp h
    exact (Command.checkTime_eq_ok_iff.mp checked).2 ▸ ih ended

theorem command_of_complete {command : List String} {timeout : Option Quantity} {ending : Ending}
    (h : Command.complete command timeout ending = .ok c) : c.command = command :=
  command_of_ended (Command.complete_eq_ok_iff.mp h).2

/-- What the errors of a trusted compiler say. -/
theorem Trusts.located (trusts : h.Trusts c.code found)
    (reports : List.Forall₂ h.format.Reports (h.format.segments (linesOf c.text.toList)) found) :
    (∀ d ∈ found, d.isError = true → d.source ≠ none ∧ d.line ≠ none) ∧
      (c.code ≠ 0 → ∃ line ∈ linesOf c.text.toList, h.format.IsErrorHeader line) := by
  have header : ∀ d ∈ found, d.isError = true → d.line ≠ none ∧
      ∃ line ∈ linesOf c.text.toList, h.format.IsErrorHeader line := by
    intro d member error
    obtain ⟨segment, inside, reported⟩ := Format.exists_reports_of_mem reports member
    obtain ⟨errorHeader, line⟩ := reported.isErrorHeader error (trusts.sourced d member error)
    exact ⟨line, segment.1, Format.mem_of_mem_segments inside, errorHeader⟩
  refine ⟨fun d member error => ⟨trusts.sourced d member error, (header d member error).1⟩, ?_⟩
  intro failed
  obtain ⟨d, member, error⟩ := trusts.spoken.resolve_left failed
  exact (header d member error).2

/-- A handle whose process has ended returns its diagnostics just if they can be trusted. Then every
error has its place, and a compiler that failed has printed the header of one. Otherwise the handle
fails with a fault that tells what was run, how it ended, and the first objection. Numbers have to
be short enough to be written and read; the code of a process always is. -/
theorem compile_eq_ok_iff_trusts (messages : h.messages = {})
    (started : (after (h.compile options sources) s).launches = s.launches ++ [launch])
    (ending : Command.complete launch.command launch.timeout s.nextEnding = .ok c)
    (fits : Decimal.length c.code.natAbs ≤ Text.numeralLimit)
    (readable : h.format.IsReadable c.text) :
    ∃ found, parse h.format c.text = .ok found ∧
      (∀ accepted, (∃ s', h.compile options sources s = .ok accepted s') ↔
        accepted = found ∧ h.Trusts c.code found) ∧
      (h.Trusts c.code found →
        (∀ d ∈ found, d.isError = true → d.source ≠ none ∧ d.line ≠ none) ∧
        (c.code ≠ 0 → ∃ line ∈ linesOf c.text.toList, h.format.IsErrorHeader line)) ∧
      (¬ h.Trusts c.code found → ∃ f s' code,
        h.compile options sources s = .error (.fault f) s' ∧ f.kind = .backend ∧
        f.facts = [("command", .texts launch.command), ("return_code", .int c.code),
          ("stderr", .text c.errors)] ∧
        f.code = some code ∧ h.Objects c found code f.message ∧
        (h.format = .ecj → code ≠ "INVALID_COMMAND_LINE")) := by
  obtain ⟨found, read, reports⟩ := Format.exists_reports readable
  obtain ⟨s₁, compiled⟩ := exists_compile_eq started ending
  refine ⟨found, read, fun accepted => ?_, fun trusts => trusts.located reports, ?_⟩
  · rw [compiled]
    simp only [ofExcept_eq_ok_iff]
    constructor
    · rintro ⟨s', judged, -⟩
      obtain ⟨known, read', sourced, spoken⟩ := judge_eq_ok_iff.mp judged
      rw [read] at read'
      obtain rfl := Except.ok.inj read'
      exact ⟨rfl, known, sourced, spoken⟩
    · rintro ⟨rfl, trusts⟩
      exact ⟨s₁, judge_of_trusts read trusts, rfl⟩
  · intro untrusted
    obtain ⟨code, message, objects⟩ := exists_objects h c found untrusted
    have judged := judge_of_objects messages fits read objects
    obtain ⟨s', failed⟩ := exists_ofExcept_eq_error judged s₁
    refine ⟨_, s', code, compiled.trans failed, rfl, ?_, rfl, objects, ?_⟩
    · rw [command_of_complete ending]
    · intro format stray
      obtain ⟨d, member, -, unplaced⟩ := objects.unsourced stray
      obtain ⟨segment, -, reported⟩ := Format.exists_reports_of_mem reports member
      rw [format] at reported
      exact reported.source_ne_none unplaced

def direct : Handle :=
  { name := "ecj", command := ["ecj"], format := .ecj, encoding := "UTF-8"
    usesArgumentFile := false, workDir := .ofText "/tmp/w" }

def refusing : Session :=
  { files := ⟨[], []⟩
    endings := [.exited 1 [] (Utf8.encode "1. ERROR in A.java (at line 2)\n")] }

def directLaunch : Launch :=
  { command := ["ecj", "-encoding", "UTF-8", "A.java"], timeout := none, environment := []
    files := ⟨[], []⟩ }

def refusal : Completion :=
  { success := false, errors := "1. ERROR in A.java (at line 2)", code := 1
    command := directLaunch.command }

theorem compile_eq_ok_iff_trusts_direct :
    ∃ s', direct.compile [] ["A.java"] refusing = .ok
      [{ kind := .error, message := "", source := some "A.java", line := some 2 }] s' := by
  have started : (after (direct.compile [] ["A.java"]) refusing).launches =
      refusing.launches ++ [directLaunch] := by
    decide +kernel
  have ending : Command.complete directLaunch.command directLaunch.timeout refusing.nextEnding =
      .ok refusal := rfl
  have reported : parse .ecj refusal.text = .ok
      [{ kind := .error, message := "", source := some "A.java", line := some 2 }] := by
    decide +kernel
  obtain ⟨found, read, accepts, -⟩ := compile_eq_ok_iff_trusts rfl started ending (by decide)
    (Format.isReadable_of_parse reported)
  obtain rfl := Except.ok.inj (reported.symm.trans read)
  exact (accepts _).mpr ⟨rfl, by decide, by simp, .inr ⟨_, List.mem_singleton_self _, rfl⟩⟩

end Handle
end PageBuild
