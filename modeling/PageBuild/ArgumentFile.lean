import PageBuild.Text.Lines
import PageBuild.Text.Surrogate

/-! Argument files: the arguments of a compiler, one quoted argument a line. Inside the quotes a
backslash stands before every quote and every backslash. -/
namespace PageBuild.ArgumentFile

def escapeChar (c : Char) : List Char := if c = '\\' || c = '"' then ['\\', c] else [c]

def quote (argument : List Char) : List Char := '"' :: argument.flatMap escapeChar ++ ['"']

/-- The file of a list of arguments; its last line is ended, too. -/
def render (arguments : List (List Char)) : List Char :=
  List.intercalate ['\n'] (arguments.map quote) ++ ['\n']

def text (arguments : List String) : String := String.ofList (render (arguments.map String.toList))

/-- Without arguments there is a line all the same, and it is empty. -/
theorem render_eq_flatMap {arguments : List (List Char)} (h : arguments ≠ []) :
    render arguments = arguments.flatMap fun argument => quote argument ++ ['\n'] := by
  rw [render, Text.intercalate_append (by simpa using h), List.flatMap_map]

/-- What a file adds to its arguments are no surrogates. -/
theorem isEncodable_text_iff {arguments : List String} :
    Text.IsEncodable (text arguments) ↔ ∀ argument ∈ arguments, Text.IsEncodable argument := by
  have marks : Text.isSurrogate '"' = false ∧ Text.isSurrogate '\\' = false ∧
      Text.isSurrogate '\n' = false := by decide
  have escaped (c : Char) :
      (∀ d ∈ escapeChar c, Text.isSurrogate d = false) ↔ Text.isSurrogate c = false := by
    unfold escapeChar
    split <;> simp [marks]
  unfold Text.IsEncodable text
  rw [String.toList_ofList]
  by_cases none : arguments = []
  · simp [none, render, List.intercalate, marks]
  · rw [render_eq_flatMap (by simpa using none)]
    simp only [List.forall_mem_flatMap, List.forall_mem_map, quote, List.cons_append,
      List.forall_mem_cons, List.forall_mem_append, marks, escaped, true_and]
    simp

end PageBuild.ArgumentFile
