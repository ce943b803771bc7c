import PageBuild.Failure

/-! Message bundles: templates by key, the known keys with texts of their own and whatever a bundle
puts in their place. A template whose arguments are missing is shown as it stands. -/
namespace PageBuild

inductive MessageKey
  | backendNotFound
  | unknownBackend
  | backendFault
  | unparsedFailure
  | lineUnmapped
  | diagnosticIncomplete
  | compilationFailed
  | smapInstallFailed
  | sourceDeleteFailed
  deriving DecidableEq, Repr

namespace MessageKey

def name : MessageKey → String
  | .backendNotFound => "compiler.error.backend_not_found"
  | .unknownBackend => "compiler.error.unknown_backend"
  | .backendFault => "compiler.error.backend_fault"
  | .unparsedFailure => "compiler.error.unparsed_failure"
  | .lineUnmapped => "compiler.error.line_unmapped"
  | .diagnosticIncomplete => "compiler.error.diagnostic_incomplete"
  | .compilationFailed => "compiler.error.compilation_failed"
  | .smapInstallFailed => "compiler.error.smap_install_failed"
  | .sourceDeleteFailed => "compiler.warning.source_delete_failed"

def template : MessageKey → String
  | .backendNotFound => "No Java compiler was found (\x7b0\x7d). Install a JDK or set JAVA_HOME."
  | .unknownBackend => "Unknown compiler backend [\x7b0\x7d]. Available backends: \x7b1\x7d"
  | .backendFault => "The Java compiler failed with exit code [\x7b0\x7d]: \x7b1\x7d"
  | .unparsedFailure =>
    "The Java compiler exited with code [\x7b0\x7d] without reporting an error: \x7b1\x7d"
  | .lineUnmapped =>
    "Unable to map line [\x7b1\x7d] of generated file [\x7b0\x7d] to the page source"
  | .diagnosticIncomplete =>
    "Compiler error reported without a source file or line: \x7b0\x7d"
  | .compilationFailed => "Unable to compile class for page: \x7b0\x7d error(s)"
  | .smapInstallFailed => "Unable to install SMAP for class [\x7b0\x7d]: \x7b1\x7d"
  | .sourceDeleteFailed => "Failed to delete generated Java file [\x7b0\x7d]"

def all : List MessageKey := [
  .backendNotFound, .unknownBackend, .backendFault, .unparsedFailure, .lineUnmapped,
  .diagnosticIncomplete, .compilationFailed, .smapInstallFailed, .sourceDeleteFailed]

end MessageKey

structure Messages where
  overrides : List (String × Json) := []
  /-- What templates find inside their arguments. -/
  known : Template.Lookup := .plain
  deriving Repr

namespace Messages

/-- What stands under a key, which a bundle may have made anything. -/
def find? (m : Messages) (key : String) : Option Json :=
  match Json.find? m.overrides key with
  | some j => some j
  | none => (MessageKey.all.find? (·.name = key)).map (.str ·.template)

def fill (m : Messages) (template : String) (arguments : List Template.Value) :
    Except Failure String :=
  match Template.fill m.known template arguments with
  | .ok s => .ok s
  | .error .missing => .ok template
  | .error (.mistake m) => .error (.value (.template m))
  | .error .attribute => .error .attribute
  | .error .unsuited => .error .type
  | .error .overflow => .error .overflow

/-- The message under a key; the key itself if there is none. -/
def message (m : Messages) (key : String) (arguments : List Template.Value) :
    Except Failure String :=
  match m.find? key with
  | none | some .null => .ok key
  | some (.str template) => m.fill template arguments
  | some _ => .error .attribute

def say (m : Messages) (key : MessageKey) (arguments : List Template.Value) :
    Except Failure String :=
  m.message key.name arguments

/-- What only says a message to fail with it never has a result. -/
theorem say_bind_throw_ne_ok {α : Type} (m : Messages) (key : MessageKey)
    (arguments : List Template.Value) (failure : String → Failure) (a : α) :
    (do throw (failure (← m.say key arguments)) : Except Failure α) ≠ .ok a := by
  cases hsay : m.say key arguments <;> simp [bind, Except.bind, throw, throwThe,
    MonadExceptOf.throw]

/-- A message that cannot be said fails for a value or a template, and is no fault. -/
theorem say_ne_fault {m : Messages} {key : MessageKey} {arguments : List Template.Value}
    (f : Fault) : m.say key arguments ≠ .error (.fault f) := by
  intro h
  unfold say message at h
  split at h
  · cases h
  · cases h
  · unfold fill at h
    split at h <;> cases h
  · cases h

/-- A document that counts as no bundle at all. -/
def isVoid : Json → Bool
  | .null | .bool false | .str "" | .arr [] | .obj [] => true
  | .int n => n = 0
  | .float (.finite _ mantissa _) => mantissa = 0
  | _ => false

/-- Puts a pair into a bundle; a pair whose key is no text is never found again. -/
def putPair (overrides : List (String × Json)) : Json × Json →
    Except Failure (List (String × Json))
  | (.str key, value) => .ok (Json.put overrides key value)
  | (.arr _, _) | (.obj _, _) => .error .type
  | _ => .ok overrides

def elements? : Json → Option (List Json)
  | .arr items => some items
  | .str s => some (s.toList.map fun c => .str (String.ofList [c]))
  | .obj members => some (members.map fun (name, _) => .str name)
  | _ => none

/-- Puts pairs into a bundle, one by one; the first that is no pair decides. -/
def putPairs (overrides : List (String × Json)) (index : Nat) :
    List Json → Except Failure (List (String × Json))
  | [] => .ok overrides
  | j :: rest =>
    match elements? j with
    | none => .error .type
    | some [key, value] => do putPairs (← putPair overrides (key, value)) (index + 1) rest
    | some items => .error (.value (.pairLength index items.length))

/-- The bundle of a document: an object, or a list of pairs. -/
def ofDocument (j : Json) : Except Failure Messages :=
  if isVoid j then .ok {}
  else match j with
    | .obj members => .ok { overrides := members }
    | .arr items => do return { overrides := ← putPairs [] 0 items }
    | .str _ => do return { overrides := ← putPairs [] 0 ((elements? j).getD []) }
    | _ => .error .type

end Messages
end PageBuild
