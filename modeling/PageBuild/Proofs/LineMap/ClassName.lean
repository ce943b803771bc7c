import PageBuild.LineMap
import PageBuild.Proofs.FileTree.Names
import PageBuild.Proofs.PathName.Joining

/-! Class names and the files that belong to them. The dots of a name cut it into fields, and each
field is a directory but for the last one. Names whose fields are names of files lead to files of
their own, and no file of one is above that of another. -/
namespace PageBuild.LineMap

variable {m m' : LineMap}

def nameFields (m : LineMap) : List (List Char) := Text.splitOn '.' m.className.toList

def IsWellNamed (m : LineMap) : Prop :=
  ∀ field ∈ m.nameFields, field ≠ [] ∧ '/' ∉ field ∧ Char.ofNat 0 ∉ field

instance (m : LineMap) : Decidable m.IsWellNamed := List.decidableBAll _ _

def IsRooted (m : LineMap) : Prop := ∃ field ∈ m.nameFields, field.head? = some '/'

instance (m : LineMap) : Decidable m.IsRooted := List.decidableBEx _ _

/-- The names that lead to the file of the source map: the fields, with the suffixes on the last. -/
def symbolNames (m : LineMap) : List String :=
  m.nameFields.dropLast.map String.ofList ++
    [String.ofList (m.nameFields.getLast (Text.splitOn_ne_nil _ _)) ++ ".class.smap"]

theorem anchor_classPath_eq_relative_iff : m.classPath.anchor = .relative ↔ ¬ m.IsRooted := by
  unfold classPath IsRooted
  rw [PathName.anchor_ofTexts_eq_relative_iff]
  simp [nameFields]

/-- The dots of the class name are none of its fields. -/
theorem dot_notMem_of_mem_nameFields {field : List Char} (h : field ∈ m.nameFields) :
    '.' ∉ field :=
  PathName.splitOn_no_separator '.' _ field h

theorem dot_notMem_of_mem_parts {part : String} (h : part ∈ m.classPath.parts) :
    '.' ∉ part.toList := by
  obtain ⟨s, text, found⟩ := PathName.exists_of_mem_parts_ofTexts h
  obtain ⟨field, member, rfl⟩ := List.mem_map.mp text
  intro dot
  refine dot_notMem_of_mem_nameFields member ?_
  simpa using PathName.subset_of_mem_partsOf found dot

/-- The class has files, whose paths are that of the class but for the suffixes. These stand behind
the last part, which has no dot of its own. -/
structure HasFiles (m : LineMap) (init : List String) (last : String) (p q : PathName) : Prop where
  parts : m.classPath.parts = init ++ [last]
  classFile : m.classFile = .ok p
  classAnchor : p.anchor = m.classPath.anchor
  classParts : p.parts = init ++ [last ++ ".class"]
  smapFile : m.smapFile = .ok q
  smapAnchor : q.anchor = m.classPath.anchor
  smapParts : q.parts = init ++ [last ++ ".class.smap"]

theorem hasFiles_of_concat {init : List String} {last : String}
    (ends : m.classPath.parts = init ++ [last]) : ∃ p q, m.HasFiles init last p q := by
  have member : last ∈ m.classPath.parts := by simp [ends]
  have named : last.toList ≠ [] := by simpa using (m.classPath.isPart last member).1
  have plain := dot_notMem_of_mem_parts member
  obtain ⟨p, found, pAnchor, pParts⟩ :=
    PathName.withSuffix?_of_concat (by decide : PathName.IsSuffix ".class") ends
  rw [PathName.stem_of_notMem plain, String.ofList_toList] at pParts
  obtain ⟨q, found', qAnchor, qParts⟩ :=
    PathName.withSuffix?_of_concat (by decide : PathName.IsSuffix ".class.smap") pParts
  have bare : PathName.stem (last ++ ".class").toList = last.toList := by
    rw [String.toList_append]
    exact PathName.stem_append named (by decide) (by decide)
  rw [bare, String.ofList_toList] at qParts
  have first : m.classFile = .ok p := by
    unfold classFile
    rw [found]
  have second : m.smapFile = .ok q := by
    simp only [smapFile, first, bind, Except.bind, found']
    rfl
  exact ⟨p, q, ends, first, pAnchor, pParts, second, qAnchor.trans pAnchor, qParts⟩

theorem files_of_no_parts (none : m.classPath.parts = []) :
    m.classFile = .error ⟨m.classPath⟩ ∧ m.smapFile = .error ⟨m.classPath⟩ := by
  have missing : m.classFile = .error ⟨m.classPath⟩ := by
    unfold classFile
    rw [PathName.withSuffix?_of_no_parts _ none]
  refine ⟨missing, ?_⟩
  rw [smapFile, missing]
  rfl

/-- A class has both files, or neither of them because there is no part in its path. -/
theorem files_cases (m : LineMap) :
    m.classPath.parts = [] ∧ m.classFile = .error ⟨m.classPath⟩ ∧
        m.smapFile = .error ⟨m.classPath⟩ ∨
      ∃ init last p q, m.HasFiles init last p q := by
  rcases List.eq_nil_or_concat m.classPath.parts with none | ⟨init, last, ends⟩
  · exact .inl ⟨none, files_of_no_parts none⟩
  · rw [List.concat_eq_append] at ends
    exact .inr ⟨init, last, hasFiles_of_concat ends⟩

theorem hasFiles_of_smapFile {q : PathName} (h : m.smapFile = .ok q) :
    ∃ init last p, m.HasFiles init last p q := by
  rcases m.files_cases with ⟨-, -, missing⟩ | ⟨init, last, p, q', files⟩
  · cases missing.symm.trans h
  · obtain rfl : q' = q := Except.ok.inj (files.smapFile.symm.trans h)
    exact ⟨init, last, p, files⟩

/-- The class file is seen from the output directory exactly if no field begins with a slash. -/
theorem anchor_classFile_eq_relative_iff {p : PathName} (h : m.classFile = .ok p) :
    p.anchor = .relative ↔ ¬ m.IsRooted := by
  rcases m.files_cases with ⟨-, missing, -⟩ | ⟨init, last, p', q, files⟩
  · cases missing.symm.trans h
  · obtain rfl : p' = p := Except.ok.inj (files.classFile.symm.trans h)
    rw [files.classAnchor, anchor_classPath_eq_relative_iff]

/-- No part of the file's path leads up or nowhere. -/
theorem plain_of_smapFile {q : PathName} (h : m.smapFile = .ok q) :
    ∀ part ∈ q.parts, part ≠ "." ∧ part ≠ ".." := by
  obtain ⟨init, last, p, files⟩ := hasFiles_of_smapFile h
  rw [files.smapParts, List.forall_mem_append, List.forall_mem_singleton]
  constructor
  · intro part member
    have plain : '.' ∉ part.toList :=
      dot_notMem_of_mem_parts (m := m) (by simp [files.parts, member])
    constructor <;> (rintro rfl; exact plain (by decide))
  · have long : 2 < (last ++ ".class.smap").toList.length := by simp
    constructor <;> (intro same; rw [same] at long; revert long; decide)

theorem isPassable_smapFile_iff {q : PathName} (h : m.smapFile = .ok q) :
    q.IsPassable ↔ m.classPath.IsPassable := by
  obtain ⟨init, last, p, files⟩ := hasFiles_of_smapFile h
  have suffix : TextFault.of? ".class.smap" = none := by decide
  simp only [PathName.IsPassable, files.smapParts, files.parts, List.forall_mem_append,
    List.forall_mem_singleton, TextFault.of?_append_eq_none_iff, suffix, and_true]

theorem exists_symbolNames_eq (m : LineMap) :
    ∃ init last, m.nameFields = init ++ [last] ∧
      m.symbolNames = init.map String.ofList ++ [String.ofList last ++ ".class.smap"] :=
  ⟨m.nameFields.dropLast, _, (List.dropLast_concat_getLast (Text.splitOn_ne_nil _ _)).symm, rfl⟩

/-- The names lead to the file of one class only, and not below the file of another one. -/
theorem className_eq_of_above (h : m.symbolNames <+: m'.symbolNames) :
    m.className = m'.className := by
  obtain ⟨init, last, fields, names⟩ := m.exists_symbolNames_eq
  obtain ⟨init', last', fields', names'⟩ := m'.exists_symbolNames_eq
  obtain ⟨rest, whole⟩ := h
  rw [names, names'] at whole
  rcases List.eq_nil_or_concat rest with rfl | ⟨more, name, rfl⟩
  · rw [List.append_nil] at whole
    obtain ⟨sameInit, sameLast⟩ := List.append_inj' whole rfl
    have init_eq : init = init' :=
      (List.map_inj_right fun _ _ => String.ofList_inj.mp).mp sameInit
    have last_eq : last = last' := by simpa [String.ofList_inj] using sameLast
    have fields_eq : m.nameFields = m'.nameFields := by rw [fields, fields', init_eq, last_eq]
    have spelled := congrArg (List.intercalate ['.']) fields_eq
    unfold nameFields at spelled
    rwa [Text.intercalate_splitOn, Text.intercalate_splitOn, String.toList_inj] at spelled
  · -- The first file would be one of the directories, whose names have no dots.
    rw [List.concat_eq_append, ← List.append_assoc] at whole
    obtain ⟨above, -⟩ := List.append_inj' whole rfl
    have member : String.ofList last ++ ".class.smap" ∈ init'.map String.ofList := by
      simp [← above]
    obtain ⟨field, found, same⟩ := List.mem_map.mp member
    have plain : '.' ∉ field := dot_notMem_of_mem_nameFields (m := m') (by simp [fields', found])
    refine absurd ?_ plain
    have spelled : field = last ++ ".class.smap".toList := by
      simpa using congrArg String.toList same
    simp [spelled]

namespace IsWellNamed

theorem isPart (h : m.IsWellNamed) : ∀ s ∈ m.nameFields.map String.ofList, IsPart s := by
  intro s text
  obtain ⟨field, member, rfl⟩ := List.mem_map.mp text
  obtain ⟨named, noSlash, -⟩ := h field member
  refine ⟨by simpa using named, fun dot => ?_, by simpa using noSlash⟩
  have only : field = ['.'] := by simpa using congrArg String.toList dot
  exact dot_notMem_of_mem_nameFields member (by simp [only])

/-- The file of the source map is where the names lead. -/
theorem smapFile_eq (h : m.IsWellNamed) :
    ∃ q, m.smapFile = .ok q ∧ q.anchor = .relative ∧ q.parts = m.symbolNames := by
  obtain ⟨relative, parts⟩ := PathName.ofTexts_of_isPart h.isPart
  obtain ⟨init, last, fields, names⟩ := m.exists_symbolNames_eq
  have ends : m.classPath.parts = init.map String.ofList ++ [String.ofList last] := by
    refine parts.trans ?_
    rw [fields, List.map_append, List.map_singleton]
  obtain ⟨p, q, files⟩ := hasFiles_of_concat ends
  exact ⟨q, files.smapFile, files.smapAnchor.trans relative, files.smapParts.trans names.symm⟩

end IsWellNamed
end PageBuild.LineMap
