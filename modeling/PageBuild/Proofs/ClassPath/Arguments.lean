import PageBuild.Proofs.Handle.Directory
import PageBuild.Proofs.PathName.Normal

/-! Class paths on the way to a compiler. The paths that a class path lists are passed as one text,
which lists the same paths in the same order; where there are none, nothing is passed. -/
namespace PageBuild

namespace ClassPath

/-- The segments of a class path that name a path: what stands between the separators, if anything
does. -/
def segments (s : String) : List (List Char) :=
  (Text.splitOn separator s.toList).filter (· ≠ [])

theorem entries_eq_map_segments (s : String) :
    entries s = (segments s).map fun segment => PathName.ofText (String.ofList segment) := by
  rw [entries, entriesBy, Text.fieldsBy_singleton, segments]

theorem entries_eq_nil_iff {s : String} : entries s = [] ↔ segments s = [] := by
  rw [entries_eq_map_segments, List.map_eq_nil_iff]

theorem segments_append (a b : String) : segments (a ++ ":" ++ b) = segments a ++ segments b := by
  have fields : Text.splitOn separator (a ++ ":" ++ b).toList =
      Text.splitOn separator a.toList ++ Text.splitOn separator b.toList := by
    rw [← Text.splitOn_append_separator]
    simp [separator]
  rw [segments, fields, List.filter_append, segments, segments]

theorem entries_append (a b : String) : entries (a ++ ":" ++ b) = entries a ++ entries b := by
  simp only [entries_eq_map_segments, segments_append, List.map_append]

/-- Normal form brings no separator into an entry. -/
theorem separator_notMem_of_mem_entries {s : String} {p : PathName} (h : p ∈ entries s) :
    separator ∉ p.text.toList := by
  rw [entries_eq_map_segments] at h
  obtain ⟨segment, member, rfl⟩ := List.mem_map.mp h
  refine PathName.notMem_text_ofText (by decide) (by decide) ?_
  rw [String.toList_ofList]
  exact PathName.splitOn_no_separator separator _ segment (List.mem_filter.mp member).1

/-- Paths without separators are read back from their text. None of them has an empty text, so no
entry is lost. -/
theorem entries_text {paths : List PathName} (h : ∀ p ∈ paths, separator ∉ p.text.toList) :
    entries (text paths) = paths := by
  by_cases none : paths = []
  · subst none
    decide
  · have apart : ∀ field ∈ paths.map (·.text.toList), separator ∉ field := by
      simpa only [List.forall_mem_map] using h
    have fields : Text.splitOn separator (text paths).toList = paths.map (·.text.toList) := by
      rw [text, Text.join, String.toList_ofList, List.map_map]
      exact Text.splitOn_intercalate (by simpa using none) apart
    have kept : (paths.map (·.text.toList)).filter (· ≠ []) = paths.map (·.text.toList) := by
      apply List.filter_eq_self.mpr
      simp only [List.forall_mem_map]
      exact fun p _ => by simpa using p.text_ne_empty
    rw [entries_eq_map_segments, segments, fields, kept, List.map_map]
    simp [Function.comp_def, PathName.ofText_text]

/-- What a compiler is told of a class path: nothing if it names no path, and otherwise one text
that lists the same paths. -/
inductive Tells (classPath : String) : List String → Prop
  | nothing (none : segments classPath = []) : Tells classPath []
  | paths {token : String} (named : segments classPath ≠ [])
    (same : entries token = entries classPath) : Tells classPath ["-classpath", token]

end ClassPath

namespace Handle

open ClassPath

variable {h : Handle}

def leading (h : Handle) (options : List String) : List String :=
  { h with classPath := [] }.arguments options []

theorem arguments_eq_leading (h : Handle) (paths : List PathName) (options sources : List String) :
    (h.withLocation paths .classPath).arguments options sources = h.leading options ++
      (if paths.isEmpty then [] else ["-classpath", ClassPath.text paths]) ++ sources := by
  simp [arguments, leading, withLocation]

theorem exists_tells (classPath : String) :
    Tells classPath (if (entries classPath).isEmpty then []
      else ["-classpath", ClassPath.text (entries classPath)]) := by
  split
  · next none => exact .nothing (entries_eq_nil_iff.mp (List.isEmpty_iff.mp none))
  · next named =>
    refine .paths (fun none => named ?_) (entries_text fun p => separator_notMem_of_mem_entries)
    exact List.isEmpty_iff.mpr (entries_eq_nil_iff.mpr none)

/-- A handle that is told a class path passes it on, between its other arguments and the sources;
the paths are those of the segments, and the paths of two class paths in one are those of the
first, then those of the second. -/
theorem passes_classPath (isOpen : h.isClosed = false) (classPath : String) (s : Session) :
    (∃ h' tokens, h.setLocation .classPath (entries classPath) s = .ok h' s ∧
      Tells classPath tokens ∧
      ∀ options sources, h'.arguments options sources = h.leading options ++ tokens ++ sources) ∧
    (entries classPath =
      (segments classPath).map fun segment => PathName.ofText (String.ofList segment)) ∧
    ∀ a b, entries (a ++ ":" ++ b) = entries a ++ entries b :=
  ⟨⟨_, _, setLocation_of_open isOpen .classPath _ s, exists_tells classPath,
    arguments_eq_leading h _⟩, entries_eq_map_segments classPath, entries_append⟩

def untold : Handle :=
  { name := "javac", command := ["javac"], format := .javac, encoding := "UTF-8", workDir := .here }

theorem passes_classPath_untidy :
    untold.isClosed = false ∧
    (entries "lib//a.jar::./b/:").map (·.text) = ["lib/a.jar", "b"] ∧
    ∃ h' token,
      untold.setLocation .classPath (entries "lib//a.jar::./b/:") { files := ⟨[], []⟩ } =
        .ok h' { files := ⟨[], []⟩ } ∧
      h'.arguments ["-g"] ["A.java"] =
        ["-g", "-encoding", "UTF-8", "-classpath", token, "A.java"] ∧
      entries token = entries "lib//a.jar::./b/:" := by
  refine ⟨rfl, by decide, ?_⟩
  obtain ⟨⟨h', tokens, told, tells, passed⟩, -⟩ :=
    passes_classPath (h := untold) rfl "lib//a.jar::./b/:" { files := ⟨[], []⟩ }
  cases tells with
  | nothing none => exact absurd none (by decide)
  | @paths token named same => exact ⟨h', token, told, passed ["-g"] ["A.java"], same⟩

end Handle
end PageBuild
