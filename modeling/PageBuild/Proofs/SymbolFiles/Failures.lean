import PageBuild.Proofs.SymbolFiles.Steps

/-! How installations fail. What the operating system refuses is a fault of the map that could not
be written; but a class name may also lead to no file at all, or to none that can be passed to the
operating system, a number may be too long to be written, and the text of a map may have no
encoding. Such maps fail for a value. -/
namespace PageBuild.SymbolFiles

open Session

variable {directory : PathName} {messages : Messages} {m : LineMap} {maps : LineMaps}
  {t : FileTree} {s s' : Session} {e : Failure}

structure IsFit (m : LineMap) : Prop where
  named : m.classPath.parts ≠ []
  isPassable : m.classPath.IsPassable
  isWritable : m.IsWritable
  isEncodable : ∀ text, m.smap = .ok text → Text.IsEncodable text

theorem isFit_of_installOne (h : installOne directory messages m s = .ok () s') : IsFit m := by
  obtain ⟨file, named, stored⟩ := stored_of_installOne h
  obtain ⟨q, found, -⟩ := exists_smapFile_of_target named
  obtain ⟨text, written, encodable, -⟩ := stored.holds
  refine ⟨fun none => ?_, ?_, SourceMap.exists_smap_iff_isWritable.mp ⟨text, written⟩, ?_⟩
  · rw [(LineMap.files_of_no_parts none).2] at found
    cases found
  · -- What the operating system has found was passed to it.
    have passed := (FileTree.fits_of_resolve stored.leads).passed
    exact isPassable_target named (PathName.of?_text_eq_none_iff.mp passed)
  · intro text' written'
    exact Except.ok.inj (written.symm.trans written') ▸ encodable

/-- A map that is fit fails with a fault only, wherever that can be told. -/
theorem Fails.exists_fault (fails : Fails directory {} m t e) (passable : directory.IsPassable)
    (fit : IsFit m) : ∃ f, e = .fault f ∧ f.kind = .symbols := by
  cases fails with
  | refused => exact ⟨_, rfl, rfl⟩
  | unsaid _ _ unsaid =>
    rw [Messages.say_smapInstallFailed] at unsaid
    cases unsaid
  | nameless none => exact absurd none fit.named
  | unpassable bad =>
    exact absurd bad (not_or.mpr ⟨not_not_intro passable, not_not_intro fit.isPassable⟩)
  | long long => exact absurd fit.isWritable long
  | unencodable written bad =>
    rw [Utf8.unencodable?_eq_none_iff_isEncodable.mpr (fit.isEncodable _ written)] at bad
    cases bad

/-- An installation that returns has found every map fit. One that fails has installed the maps
before some map, which are fit, and then fails in one of the ways in which that map can fail; if the
map is fit itself, it is refused by the operating system, and the failure is its fault. -/
theorem fits_or_fails_install (directory : PathName) (messages : Messages) (maps : LineMaps)
    (s : Session) :
    (∀ s', install directory messages (some maps) s = .ok () s' →
      ∀ member ∈ maps, IsFit member.2) ∧
    ∀ e s', install directory messages (some maps) s = .error e s' →
      ∃ before member later s₁, maps = before ++ member :: later ∧
        installEach directory messages before s = .ok () s₁ ∧
        (∀ earlier ∈ before, IsFit earlier.2) ∧ Fails directory messages member.2 s₁.files e ∧
        (messages = {} → directory.IsPassable → IsFit member.2 →
          ∃ f, e = .fault f ∧ f.kind = .symbols) := by
  constructor
  · intro s' done member found
    obtain ⟨s₁, each, -⟩ := installEach_of_install_ok done
    obtain ⟨_, _, here⟩ := exists_of_forM_eq_ok each found
    exact isFit_of_installOne here
  · intro e s' failed
    obtain ⟨before, member, later, s₁, split, done, stopped⟩ :=
      exists_of_forM_eq_error (installEach_of_install_error failed)
    have fails := (fails_of_installOne stopped).2
    refine ⟨before, member, later, s₁, split, done, fun earlier found => ?_, fails, ?_⟩
    · obtain ⟨_, _, here⟩ := exists_of_forM_eq_ok done found
      exact isFit_of_installOne here
    · rintro rfl
      exact fails.exists_fault

def plain : LineMap := { generatedFile := "A.java", className := "p.A" }

/-- A session in which a file stands in the place of the output directory. -/
def obstructed : Session := { files := ⟨[(["out"], .file [] false)], []⟩ }

theorem fits_or_fails_install_obstructed :
    IsFit plain ∧ ∃ f s', install (.ofText "out") {} (some [("A.java", plain)]) obstructed =
      .error (.fault f) s' ∧ f.kind = .symbols := by
  have fit : IsFit plain := {
    named := by decide
    isPassable := by decide
    isWritable := by decide
    isEncodable := by
      intro text written
      have spelled : plain.smap = .ok "SMAP\nA.java\nJSP\n*S JSP\n*F\n*L\n*E\n" := by
        decide +kernel
      obtain rfl := Except.ok.inj (spelled.symm.trans written)
      decide }
  have failed : (install (.ofText "out") {} (some [("A.java", plain)]) obstructed
      matches .error ..) = true := by
    decide +kernel
  refine ⟨fit, ?_⟩
  cases run : install (.ofText "out") {} (some [("A.java", plain)]) obstructed with
  | ok _ s' =>
    rw [run] at failed
    cases failed
  | error e s' =>
    obtain ⟨before, member, later, s₁, split, -, -, -, fault⟩ :=
      (fits_or_fails_install (.ofText "out") {} [("A.java", plain)] obstructed).2 e s' run
    have only : member = ("A.java", plain) := by
      have found : member ∈ [("A.java", plain)] := by simp [split]
      exact List.mem_singleton.mp found
    obtain ⟨f, rfl, kind⟩ := fault rfl (by decide) (only ▸ fit)
    exact ⟨f, s', rfl, kind⟩

def nameless : LineMap := { generatedFile := "A.java", className := "" }

/-- A class without a name fails for its path, and with no fault. -/
theorem exists_install_nameless :
    nameless.IsConsistent ∧ (PathName.ofText "out").IsPassable ∧
      ∃ s', install (.ofText "out") {} (some [("A.java", nameless)]) { files := ⟨[], []⟩ } =
        .error (.value (.emptyName ⟨.here⟩)) s' := by
  have none : nameless.classPath = .here := rfl
  have unnamed : target (.ofText "out") nameless = .error (.value (.emptyName ⟨.here⟩)) := by
    rw [target, (LineMap.files_of_no_parts (by rw [none]; rfl)).2, none]
  have stopped : installOne (.ofText "out") {} nameless { files := ⟨[], []⟩ } =
      .error (.value (.emptyName ⟨.here⟩)) { files := ⟨[], []⟩ } := by
    refine bind_of_error ?_
    rw [unnamed]
    rfl
  exact ⟨by decide, by decide, _, bind_of_error stopped⟩

end PageBuild.SymbolFiles
