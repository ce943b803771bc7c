import PageBuild.CommandLine
import PageBuild.Proofs.Session.Failures
import PageBuild.Resolution.Account

/-! What a command line loads before the compiler is called: a context, line maps and a backend.
Loading reads files and changes none, so it is a function of the files. What it fails with is told,
but for a document that cannot be read and for line maps that are no object. -/
namespace PageBuild

open Session

namespace Failure

/-- How a document cannot be read without that being told: the operating system refuses its path,
or it is nested too deeply. -/
def IsUnread (e : Failure) : Prop := e.IsRefusal ∨ ∃ c, e = .nesting c

theorem IsUnread.not_isTold {e : Failure} (unread : e.IsUnread) : ¬ e.IsTold := by
  rcases unread with ⟨refusal, rfl⟩ | ⟨c, rfl⟩
  · exact not_isTold_refused refusal
  · rintro (⟨f, ⟨⟩⟩ | about)
    cases about

theorem not_isTold_attribute : ¬ attribute.IsTold := by
  rintro (⟨f, ⟨⟩⟩ | about)
  cases about

end Failure

/-- Line maps that were read are consistent. -/
theorem LineMaps.isConsistent_of_read {members : List (String × Json)} {maps : LineMaps}
    (hread : LineMaps.read members = .ok maps) : ∀ member ∈ maps, member.2.IsConsistent := by
  induction members generalizing maps with
  | nil =>
    cases hread
    simp
  | cons member members ih =>
    obtain ⟨m, first, hread⟩ := Except.bind_eq_ok_iff.mp hread
    obtain ⟨later, rest, hread⟩ := Except.bind_eq_ok_iff.mp hread
    cases hread
    rintro found (_ | ⟨_, inLater⟩)
    · exact LineMap.isConsistent_of_read first
    · exact ih rest found inLater

namespace Documents

variable {α : Type} {files : FileTree} {path : String} {e : Failure}

/-- Loading reads files, and does nothing else. -/
theorem load_eq (from? : FileTree → String → Except Failure α) (path : String) (s : Session) :
    load from? path s = Session.ofExcept (from? s.files path) s := rfl

theorem isTold_of_textOf (failed : textOf files path = .error e) : e.IsTold := by
  unfold textOf at failed
  split at failed
  · cases failed
    exact Failure.isTold_fault _
  · cases failed
    exact Failure.isTold_value _
  · split at failed
    · cases failed
      exact .inr rfl
    · cases failed

theorem isTold_or_isUnread_of_parse {text : List Char} (failed : parse path text = .error e) :
    e.IsTold ∨ e.IsUnread := by
  unfold parse at failed
  split at failed
  · cases failed
  · cases failed
    exact .inl (Failure.isTold_fault _)
  · cases failed
    exact .inl (Failure.isTold_value _)
  · next c _ =>
    cases failed
    exact .inr (.inr ⟨c, rfl⟩)

theorem isTold_or_isUnread_of_document (failed : document files path = .error e) :
    e.IsTold ∨ e.IsUnread := by
  unfold document at failed
  dsimp only at failed
  split at failed
  · next refusal _ =>
    cases failed
    exact .inr (.inl ⟨refusal, rfl⟩)
  · cases failed
    exact .inl (Failure.isTold_fault _)
  · rcases Except.bind_eq_error_iff.mp failed with unopened | ⟨text, -, unparsed⟩
    · exact .inl (isTold_of_textOf unopened)
    · exact isTold_or_isUnread_of_parse unparsed

/-- A model that refuses a document fails with a fault. -/
theorem model_eq_error_iff {read : Json → Except Schema.Report α} (untold : ¬ e.IsTold) :
    model read files path = .error e ↔ document files path = .error e := by
  unfold model
  rw [Except.bind_eq_error_iff]
  refine or_iff_left ?_
  rintro ⟨j, -, failed⟩
  split at failed
  · cases failed
  · cases failed
    exact untold (Failure.isTold_fault _)

def IsNoObject (files : FileTree) (path : String) : Prop :=
  ∃ j, document files path = .ok j ∧ ∀ members, j ≠ .obj members

theorem lineMaps_eq_error_iff (untold : ¬ e.IsTold) :
    lineMaps files path = .error e ↔
      document files path = .error e ∨ IsNoObject files path ∧ e = .attribute := by
  unfold lineMaps
  rw [Except.bind_eq_error_iff]
  refine or_congr_right ?_
  constructor
  · rintro ⟨j, hread, failed⟩
    split at failed
    · obtain ⟨r, -, rfl⟩ := Except.mapError_eq_error_iff.mp failed
      exact absurd (.inr rfl) untold
    · next shape =>
      cases failed
      exact ⟨⟨j, hread, shape⟩, rfl⟩
  · rintro ⟨⟨j, hread, shape⟩, rfl⟩
    refine ⟨j, hread, ?_⟩
    split
    · next members => exact absurd rfl (shape members)
    · rfl

theorem isConsistent_of_lineMaps {maps : LineMaps} (hread : lineMaps files path = .ok maps) :
    ∀ member ∈ maps, member.2.IsConsistent := by
  obtain ⟨j, -, hread⟩ := Except.bind_eq_ok_iff.mp hread
  split at hread
  · exact LineMaps.isConsistent_of_read (Except.mapError_eq_ok_iff.mp hread)
  · cases hread

end Documents

namespace CommandLine

variable {s : Settings} {files : FileTree} {e : Failure}

structure Order where
  context : Context
  lineMaps : Option LineMaps
  backend : Backend

namespace Order

def compilation (o : Order) : Compilation := .standard o.backend o.context

def run (o : Order) : Action Outcome := o.compilation.run o.context { lineMaps := o.lineMaps }

end Order

namespace Settings

def contextFrom (s : Settings) (files : FileTree) : Except Failure Context :=
  match s.config with
  | some config => Documents.context files config.text
  | none => (contextOf s (s.source.getD .here)).mapError .rejected

def lineMapsFrom (s : Settings) (files : FileTree) : Except Failure (Option LineMaps) :=
  match s.lineMap with
  | some file => some <$> Documents.lineMaps files file.text
  | none => pure none

def order (s : Settings) (files : FileTree) : Except Failure Order := do
  let context ← s.contextFrom files
  let lineMaps ← s.lineMapsFrom files
  return { context, lineMaps, backend := ← Registry.create {} s.backend (backendSettings s) }

end Settings

theorem loadContext_eq (s : Settings) (session : Session) :
    loadContext s (s.source.getD .here) session =
      Session.ofExcept (s.contextFrom session.files) session := by
  unfold loadContext Settings.contextFrom
  cases s.config with
  | none => rfl
  | some config => exact Documents.load_eq _ _ _

theorem loadLineMaps_eq (file : PathName) (session : Session) :
    (some <$> Documents.load Documents.lineMaps file.text : Action (Option LineMaps)) session =
      Session.ofExcept (some <$> Documents.lineMaps session.files file.text) session := by
  simp only [map_eq_pure_bind]
  rw [ofExcept_bind]
  exact bind_congr_ok (Documents.load_eq _ _ _) fun _ _ _ => rfl

/-- A compilation loads what is ordered, and carries it out. -/
theorem compile_eq (s : Settings) (session : Session) :
    compile {} s (s.source.getD .here) session = (do
      let o ← Session.ofExcept (s.order session.files)
      return (o.context, ← o.run)) session := by
  unfold compile Settings.order
  simp only [ofExcept_bind, bind_assoc]
  refine bind_congr_ok (loadContext_eq s session) fun c s₁ loaded => ?_
  obtain ⟨-, rfl⟩ := ofExcept_eq_ok_iff.mp ((loadContext_eq s session).symm.trans loaded)
  unfold Settings.lineMapsFrom
  cases s.lineMap with
  | none => rfl
  | some file =>
    refine bind_congr_ok (loadLineMaps_eq file session) fun lineMaps s₁ _ => ?_
    rfl

/-- The backends that there are can be made with the settings of a command line. They wait as long as
it says, and speak with the messages of the bundle. -/
theorem exists_make {t : Toolchain} (known : t.finder ≠ .unspecified) (s : Settings) :
    ∃ b, Backend.make t (backendSettings s) = .ok b ∧ b.messages = {} ∧
      b.timeout = s.timeout.map .real := by
  unfold Backend.make backendSettings
  rw [if_neg known]
  split <;> exact ⟨_, rfl, rfl, rfl⟩

/-- Every kind of compiler that can be asked for knows how to find it. -/
theorem finder_of_find? {name : String} {t : Toolchain}
    (found : Json.find? ({} : Registry).kinds name = some t) : t.finder ≠ .unspecified := by
  simp only [Json.find?] at found
  split at found
  · cases found
    simp [Toolchain.javac]
  · split at found
    · cases found
      simp [Toolchain.ecj]
    · cases found

/-- What fails for want of a backend is told. -/
theorem isTold_of_create
    (failed : Registry.create {} s.backend (backendSettings s) = .error e) : e.IsTold := by
  unfold Registry.create at failed
  split at failed
  · next t found =>
    obtain ⟨b, made, -⟩ := exists_make (finder_of_find? found) s
    rw [made] at failed
    cases failed
  · have bundle : Registry.messagesOf (backendSettings s) = {} := by
      unfold backendSettings
      split <;> rfl
    rw [bundle] at failed
    exact Messages.isTold_of_say_bind_throw failed

theorem of_create {b : Backend}
    (created : Registry.create {} s.backend (backendSettings s) = .ok b) :
    b.messages = {} ∧ b.timeout = s.timeout.map .real := by
  unfold Registry.create at created
  split at created
  · next t found =>
    obtain ⟨b', made, as⟩ := exists_make (finder_of_find? found) s
    exact Except.ok.inj (made.symm.trans created) ▸ as
  · obtain ⟨message, -, failed⟩ := Except.bind_eq_ok_iff.mp created
    cases failed

inductive Settings.Unread (s : Settings) (files : FileTree) : Failure → Prop
  /-- The configuration file is not read. -/
  | config {file : PathName} {e : Failure} (named : s.config = some file)
      (unread : Documents.document files file.text = .error e) (kind : e.IsUnread) :
      s.Unread files e
  /-- There is a context, but the file for the line maps is not read. -/
  | lineMaps {c : Context} {file : PathName} {e : Failure} (loaded : s.contextFrom files = .ok c)
      (named : s.lineMap = some file)
      (unread : Documents.document files file.text = .error e) (kind : e.IsUnread) :
      s.Unread files e
  /-- There is a context, but the file for the line maps holds something else than an object. -/
  | noObject {c : Context} {file : PathName} (loaded : s.contextFrom files = .ok c)
      (named : s.lineMap = some file) (shape : Documents.IsNoObject files file.text) :
      s.Unread files .attribute

theorem Settings.Unread.not_isTold (unread : s.Unread files e) : ¬ e.IsTold := by
  cases unread with
  | config _ _ kind => exact kind.not_isTold
  | lineMaps _ _ _ kind => exact kind.not_isTold
  | noObject => exact Failure.not_isTold_attribute

theorem Settings.contextFrom_eq_error_iff (untold : ¬ e.IsTold) :
    s.contextFrom files = .error e ↔
      ∃ file, s.config = some file ∧ Documents.document files file.text = .error e := by
  unfold contextFrom
  cases s.config with
  | some config => simp [Documents.context, Documents.model_eq_error_iff untold]
  | none =>
    refine iff_of_false (fun failed => ?_) (by simp)
    obtain ⟨r, -, rfl⟩ := Except.mapError_eq_error_iff.mp failed
    exact untold (.inr rfl)

theorem Settings.lineMapsFrom_eq_error_iff (untold : ¬ e.IsTold) :
    s.lineMapsFrom files = .error e ↔
      ∃ file, s.lineMap = some file ∧ (Documents.document files file.text = .error e ∨
        Documents.IsNoObject files file.text ∧ e = .attribute) := by
  unfold lineMapsFrom
  cases s.lineMap with
  | none => simp [pure, Except.pure]
  | some file =>
    simp only [Option.some.injEq, exists_eq_left', ← Documents.lineMaps_eq_error_iff untold]
    cases Documents.lineMaps files file.text <;> simp [Functor.map, Except.map]

/-- Loading fails without being told exactly where a document is not read. -/
theorem Settings.order_eq_error_iff :
    s.order files = .error e ∧ ¬ e.IsTold ↔ s.Unread files e := by
  constructor
  · rintro ⟨failed, untold⟩
    have isUnread {file : PathName}
        (unread : Documents.document files file.text = .error e) : e.IsUnread :=
      (Documents.isTold_or_isUnread_of_document unread).resolve_left untold
    rcases Except.bind_eq_error_iff.mp failed with failed | ⟨c, loaded, failed⟩
    · obtain ⟨file, named, unread⟩ := (contextFrom_eq_error_iff untold).mp failed
      exact .config named unread (isUnread unread)
    rcases Except.bind_eq_error_iff.mp failed with failed | ⟨maps, -, failed⟩
    · obtain ⟨file, named, unread | ⟨shape, rfl⟩⟩ := (lineMapsFrom_eq_error_iff untold).mp failed
      · exact .lineMaps loaded named unread (isUnread unread)
      · exact .noObject loaded named shape
    rcases Except.bind_eq_error_iff.mp failed with failed | ⟨b, -, failed⟩
    · exact absurd (isTold_of_create failed) untold
    · cases failed
  · intro unread
    have untold := unread.not_isTold
    refine ⟨Except.bind_eq_error_iff.mpr ?_, untold⟩
    cases unread with
    | config named unread kind =>
      exact .inl ((contextFrom_eq_error_iff untold).mpr ⟨_, named, unread⟩)
    | lineMaps loaded named unread kind =>
      exact .inr ⟨_, loaded, Except.bind_eq_error_iff.mpr <| .inl <|
        (lineMapsFrom_eq_error_iff untold).mpr ⟨_, named, .inl unread⟩⟩
    | noObject loaded named shape =>
      exact .inr ⟨_, loaded, Except.bind_eq_error_iff.mpr <| .inl <|
        (lineMapsFrom_eq_error_iff untold).mpr ⟨_, named, .inr ⟨shape, rfl⟩⟩⟩

/-- The backend of an order speaks with the messages of the bundle and waits as long as the settings
say, and the line maps are consistent. -/
theorem Order.of_order {o : Order} (ordered : s.order files = .ok o) :
    o.backend.messages = {} ∧ o.backend.timeout = s.timeout.map .real ∧
      Metadata.IsConsistent { lineMaps := o.lineMaps } := by
  obtain ⟨c, -, ordered⟩ := Except.bind_eq_ok_iff.mp ordered
  obtain ⟨maps, mapped, ordered⟩ := Except.bind_eq_ok_iff.mp ordered
  obtain ⟨b, created, ordered⟩ := Except.bind_eq_ok_iff.mp ordered
  cases ordered
  refine ⟨(of_create created).1, (of_create created).2, ?_⟩
  unfold Settings.lineMapsFrom at mapped
  split at mapped
  · rw [map_eq_pure_bind] at mapped
    obtain ⟨read, hread, mapped⟩ := Except.bind_eq_ok_iff.mp mapped
    cases mapped
    exact Documents.isConsistent_of_lineMaps hread
  · cases mapped
    exact fun member absent => absurd absent List.not_mem_nil

end CommandLine
end PageBuild
