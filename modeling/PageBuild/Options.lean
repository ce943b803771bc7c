import PageBuild.Context

/-! Compiler options: the tokens that a context asks for, in the order in which they are passed. -/
namespace PageBuild

inductive Dialect
  | base
  | javac
  | ecj
  deriving DecidableEq, Repr

namespace Dialect

/-- Generated pages have no annotation processors, and warnings about them help nobody. -/
def ownOptions : Dialect → List String
  | .base => []
  | .javac => ["-proc:none", "-Xlint:none"]
  | .ecj => ["-proc:none", "-nowarn"]

def defaultVersion : String := "1.8"

/-- The options of a context; those that it adds come last, so that they win. -/
def options (d : Dialect) (c : Context) (version : String := defaultVersion) : List String :=
  [if c.debugInfo then "-g" else "-g:none",
    "-source", c.sourceLevel.getD version,
    "-target", c.targetLevel.getD version] ++ d.ownOptions ++ c.extraOptions

end Dialect
end PageBuild
