import PageBuild.Number.Binary64
import PageBuild.Json

/-! Quantities: whole numbers and floating-point numbers, told apart as they were given. -/
namespace PageBuild

inductive Quantity
  | whole (n : Int)
  | real (x : Binary64)
  deriving DecidableEq, Repr

namespace Quantity

def zero : Quantity := .real Binary64.zero

def text : Quantity → String
  | .whole n => Decimal.text n
  | .real x => x.text

def isNegative : Quantity → Bool
  | .whole n => n < 0
  | .real .nan => false
  | .real (.infinite negative) => negative
  | .real (.finite negative mantissa _) => negative && mantissa ≠ 0

def json : Quantity → Json
  | .whole n => .int n
  | .real x => .float x

end Quantity
end PageBuild
