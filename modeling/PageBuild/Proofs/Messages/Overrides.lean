import PageBuild.Proofs.Messages.Defaults
import PageBuild.Resolution.Account

/-! Bundles that put texts in the place of others. A message is the key if nothing stands under it,
and else its template: filled, or as it stands if an argument is missing. Any other fault of the
template is a failure of the message; simple templates have none, and all known ones are simple. -/
namespace PageBuild

namespace Messages

open Template

variable {m : Messages} {key : String} {arguments : List Value}

def IsText (m : Messages) : Prop := ∀ member ∈ m.overrides, ∃ template, member.2 = .str template

def IsSimple (m : Messages) (key : String) : Prop :=
  ∀ template, (key, .str template) ∈ m.overrides → ∃ t : Simple, template = String.ofList t.written

/-- What stands under a key is from the bundle, or a known template. -/
theorem found_of_find? {j : Json} (h : m.find? key = some j) :
    (key, j) ∈ m.overrides ∨ ∃ own : MessageKey, j = .str own.template := by
  unfold find? at h
  split at h
  · next own found =>
    obtain rfl := Option.some.inj h
    exact .inl (Json.mem_of_find? found)
  · obtain ⟨known, -, rfl⟩ := Option.map_eq_some_iff.mp h
    exact .inr ⟨known, rfl⟩

theorem IsText.find? (texts : m.IsText) {j : Json} (h : m.find? key = some j) :
    ∃ template, j = .str template := by
  rcases found_of_find? h with member | ⟨known, rfl⟩
  · exact texts _ member
  · exact ⟨_, rfl⟩

theorem IsSimple.find? (simple : m.IsSimple key) {template : String}
    (h : m.find? key = some (.str template)) :
    ∃ t : Simple, template = String.ofList t.written := by
  rcases found_of_find? h with member | ⟨known, own⟩
  · exact simple template member
  · obtain rfl := Json.str.inj own
    exact ⟨known.plain.simple, by rw [Plain.written_simple, MessageKey.written_plain]⟩

end Messages
end PageBuild
