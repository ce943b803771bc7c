import PageBuild.PathName

/-! Class paths: the paths that a text lists, in the order that lookup follows. -/
namespace PageBuild.ClassPath

/-- The entries of a class path whose separator starts with the first character and goes on with
the others; empty segments are dropped. -/
def entriesBy (first : Char) (more : List Char) (s : String) : List PathName :=
  ((Text.fieldsBy (first :: more) 0 s.toList).filter (· ≠ [])).map
    fun segment => PathName.ofText (String.ofList segment)

def separator : Char := ':'

def entries (s : String) : List PathName := entriesBy separator [] s

def text (entries : List PathName) : String := Text.join ":" (entries.map (·.text))

end PageBuild.ClassPath
