import PageBuild.Proofs.FileTree.Changes
import PageBuild.Proofs.Handle.Opening
import PageBuild.Proofs.Session.Steps

/-! Running the compiler of a handle. One process is started at most, and it is passed exactly the
arguments of the handle, on its command line or in a file. -/
namespace PageBuild

open Session

/-- The process was passed arguments as the caller passes them: on its command line, or in a file
that holds one quoted argument a line. -/
def Launch.Passes (launch : Launch) (c : Caller) (arguments : List String) : Prop :=
  if c.usesArgumentFile then
    ∃ file, launch.command = c.command ++ ["@" ++ file] ∧
      launch.files.contentOf file = .ok (Utf8.encode (ArgumentFile.text arguments))
  else launch.command = c.command ++ arguments

namespace Handle

variable {h : Handle} {s s' : Session}

theorem passes_of_prepare {arguments command : List String} {launch : Launch}
    (hprepare : h.prepare arguments s = .ok command s') (hcommand : launch.command = command)
    (hfiles : launch.files = s'.files) : launch.Passes h.toCaller arguments := by
  unfold prepare at hprepare
  unfold Launch.Passes
  split at hprepare
  · next uses =>
    obtain ⟨_, s₁, written, hpure⟩ := bind_eq_ok_iff.mp hprepare
    obtain ⟨rfl, rfl⟩ := pure_eq_ok_iff.mp hpure
    obtain ⟨files, run, rfl⟩ := change_eq_ok written
    rw [if_pos uses, hcommand, hfiles]
    exact ⟨h.argumentFile.text, rfl,
      FileTree.contentOf_write (FileTree.writeText_eq_ok_iff.mp run).2⟩
  · next uses =>
    obtain ⟨rfl, -⟩ := pure_eq_ok_iff.mp hprepare
    rw [if_neg uses, hcommand]

theorem eq_of_requireOpen (required : h.requireOpen s = .ok () s') : s' = s := by
  unfold requireOpen at required
  split at required
  · exact absurd required (raise_ne_ok _ _ _ _)
  · exact (pure_eq_ok_iff.mp required).2.symm

/-- Nothing that a handle does is a step of its own. -/
theorem keeps_stages_compile (h : Handle) (options sources : List String) :
    Keeps stages (h.compile options sources) := by
  refine (steady_stages.keeps_requireOpen h).bind fun _ => ?_
  refine (steady_stages.keeps_prepare h _).bind fun command => Keeps.bind ?_ fun _ => ?_
  · intro s
    unfold after
    rw [Command.run_eq]
    exact (steady_stages.keeps_ofExcept _ _).trans (stages_started s _)
  · exact steady_stages.keeps_ofExcept _

/-- The one process is of any kind that a process with the prepared command is of. -/
theorem startsOne_compile_of {kind : Launch → Prop} {options sources : List String} {s : Session}
    (launched : ∀ command s₁, h.prepare (h.arguments options sources) s = .ok command s₁ →
      kind { command, timeout := h.timeout, environment := s₁.environment, files := s₁.files }) :
    StartsOne kind (h.compile options sources) s := by
  refine StartsOne.after_keeps (steady_launches.keeps_requireOpen h) fun _ s₁ required => ?_
  obtain rfl := eq_of_requireOpen required
  refine StartsOne.after_keeps (steady_launches.keeps_prepare h _) fun command s₂ prepared => ?_
  refine StartsOne.before_keeps ?_ fun _ => steady_launches.keeps_ofExcept _
  have started := launched command s₂ prepared
  unfold StartsOne
  rw [Command.run_eq]
  refine ⟨fun a s' run => ⟨_, started, ?_⟩, fun e s' run => .inr ⟨_, started, ?_⟩⟩
  · rw [(steady_launches.keeps_ofExcept _).of_ok run]
    exact launches_started _ _
  · rw [(steady_launches.keeps_ofExcept _).of_error run]
    exact launches_started _ _

theorem startsOne_compile (h : Handle) (options sources : List String) (s : Session) :
    StartsOne (·.Passes h.toCaller (h.arguments options sources))
      (h.compile options sources) s :=
  startsOne_compile_of fun _ _ prepared => passes_of_prepare prepared rfl rfl

end Handle
end PageBuild
