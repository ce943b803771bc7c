import PageBuild.Messages
import PageBuild.Session

/-! Dispatch: what is done with the errors of a compilation, reported as one batch. -/
namespace PageBuild

abbrev Dispatcher := List ErrorDetail → Action Unit

namespace Dispatcher

/-- Keeps every batch and logs each of its errors. -/
def collecting : Dispatcher := fun errors => do
  modify fun s => { s with batches := s.batches ++ [errors] }
  errors.forM fun d => do
    let text ← Session.ofExcept (d.text.mapError .ofNumber)
    Session.log .error s!"Compilation error: {text}"

def failed (messages : Messages) (errors : List ErrorDetail) : Except Failure Unit := do
  let details := Text.join "\n" (← (errors.mapM ErrorDetail.text).mapError .ofNumber)
  let message ← messages.say .compilationFailed [.int errors.length]
  throw (.fault {
    kind := .reported, message := s!"{message}\n{details}", code := some "COMPILATION_FAILED"
    facts := Fault.ownFacts .reported errors, errors })

def raising (messages : Messages) : Dispatcher := fun errors =>
  Session.ofExcept (failed messages errors)

end Dispatcher
end PageBuild
