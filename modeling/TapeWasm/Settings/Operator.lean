/-!
Operators between two values.
-/
namespace TapeWasm.Settings

inductive Operator where
  | or
  | and
  | equal
  | notEqual
  | less
  | lessEqual
  | greater
  | greaterEqual
  | add
  | subtract
  | multiply
  | divide
  | modulo
  deriving DecidableEq, Repr

namespace Operator

/-- How tightly an operator binds: operators of higher levels come first. -/
def level : Operator → Nat
  | or => 0
  | and => 1
  | equal | notEqual => 2
  | less | lessEqual | greater | greaterEqual => 3
  | add | subtract => 4
  | multiply | divide | modulo => 5

def levels : Nat := 6

end Operator
end TapeWasm.Settings
