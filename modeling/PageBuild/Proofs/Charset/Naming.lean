import PageBuild.Charset
import PageBuild.Text.Blank

/-! The names that compilers know encodings by, given as names of encodings. Such a name stands for
the encoding that it was found for and is kept as it is, but for the one of Mac Roman, which is no
name that an encoding could be given by. -/
namespace PageBuild.Charset

variable {given name : String} {c : Charset}

def macRoman : Charset := ⟨"x-MacRoman", ["mac_roman"], ["macintosh", "macroman"]⟩

theorem macRoman_mem_renamed : macRoman ∈ renamed := by decide +kernel

/-- The name that a compiler knows leads back to the encoding. -/
theorem find?_plain_java (member : c ∈ renamed) :
    find? (plain c.java) = if c = macRoman then none else some (some c) := by
  have table : ∀ c ∈ renamed,
      find? (plain c.java) = if c = macRoman then none else some (some c) := by
    decide +kernel
  exact table c member

theorem java_eq_iff (member : c ∈ renamed) : c.java = macRoman.java ↔ c = macRoman := by
  have table : ∀ c ∈ renamed, c.java = macRoman.java ↔ c = macRoman := by decide +kernel
  exact table c member

/-- A text without surrogates, without a NUL and without white space at its ends. -/
theorem java_plain (member : c ∈ renamed) :
    Text.IsEncodable c.java ∧ Char.ofNat 0 ∉ c.java.toList ∧ c.java ≠ "" ∧
      Text.stripWhite c.java = c.java := by
  have table : ∀ c ∈ renamed, Text.IsEncodable c.java ∧ Char.ofNat 0 ∉ c.java.toList ∧
      c.java ≠ "" ∧ Text.stripWhite c.java = c.java := by
    decide +kernel
  exact table c member

theorem mem_renamed_of_find? {s : String} (found : find? s = some (some c)) : c ∈ renamed := by
  unfold find? at found
  dsimp only at found
  split at found
  · next other first =>
    obtain rfl : other = c := by simpa using found
    exact List.mem_of_find?_eq_some first
  · split at found <;> simp at found

theorem javaName_of_isEncodable (encodable : Text.IsEncodable given)
    (noNul : Char.ofNat 0 ∉ given.toList) :
    javaName given = match find? (plain given) with
      | none => .error (.unknown given)
      | some none => .ok given
      | some (some c) => .ok c.java := by
  unfold javaName
  rw [Utf8.unencodable?_eq_none_iff_isEncodable.mpr encodable]
  exact if_neg (by simpa using noNul)

theorem isEncodable_of_javaName (known : javaName given = .ok name) :
    Text.IsEncodable given ∧ Char.ofNat 0 ∉ given.toList := by
  unfold javaName at known
  split at known
  · cases known
  · next sound =>
    refine ⟨Utf8.unencodable?_eq_none_iff_isEncodable.mp sound, fun nul => ?_⟩
    rw [if_pos (by simpa using nul)] at known
    cases known

/-- A known name is kept as it is, or it is that of an encoding that compilers know by another. -/
theorem javaName_eq_ok_iff :
    javaName given = .ok name ↔ (Text.IsEncodable given ∧ Char.ofNat 0 ∉ given.toList) ∧
      (find? (plain given) = some none ∧ name = given ∨
        ∃ c, find? (plain given) = some (some c) ∧ name = c.java) := by
  by_cases sound : Text.IsEncodable given ∧ Char.ofNat 0 ∉ given.toList
  · rw [javaName_of_isEncodable sound.1 sound.2, and_iff_right sound]
    rcases find? (plain given) with _ | _ | c <;> simp [eq_comm]
  · exact iff_of_false (fun known => sound (isEncodable_of_javaName known)) fun h => sound h.1

theorem javaName_java (member : c ∈ renamed) :
    javaName c.java = if c = macRoman then .error (.unknown c.java) else .ok c.java := by
  obtain ⟨encodable, noNul, -⟩ := java_plain member
  rw [javaName_of_isEncodable encodable noNul, find?_plain_java member]
  by_cases odd : c = macRoman <;> simp [odd]

/-- No other name than that of Mac Roman becomes another one, or unknown, when it is looked up
again. -/
theorem javaName_javaName (known : javaName given = .ok name) :
    javaName name = if name = macRoman.java then .error (.unknown name) else .ok name := by
  obtain ⟨-, ⟨kept, rfl⟩ | ⟨c, found, rfl⟩⟩ := javaName_eq_ok_iff.mp known
  · have other : name ≠ macRoman.java := by
      rintro rfl
      rw [find?_plain_java macRoman_mem_renamed] at kept
      cases kept
    rw [known, if_neg other]
  · have member := mem_renamed_of_find? found
    rw [javaName_java member]
    by_cases odd : c = macRoman
    · rw [if_pos odd, if_pos ((java_eq_iff member).mpr odd)]
    · rw [if_neg odd, if_neg (mt (java_eq_iff member).mp odd)]

/-- The name of Mac Roman is given to that encoding alone. -/
theorem eq_java_macRoman_iff (known : javaName given = .ok name) :
    name = macRoman.java ↔ find? (plain given) = some (some macRoman) := by
  obtain ⟨-, ⟨kept, rfl⟩ | ⟨c, found, rfl⟩⟩ := javaName_eq_ok_iff.mp known
  · refine iff_of_false ?_ (by simp [kept])
    rintro rfl
    rw [find?_plain_java macRoman_mem_renamed] at kept
    cases kept
  · rw [java_eq_iff (mem_renamed_of_find? found), found]
    simp

end PageBuild.Charset
