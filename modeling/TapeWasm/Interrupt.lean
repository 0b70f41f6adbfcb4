import TapeWasm.Fault

/-!
Reasons to stop work that has been asked for, and how long work may go on.
-/
namespace TapeWasm

inductive Interrupt where
  | canceled
  | deadline
  deriving DecidableEq, Repr

namespace Interrupt

def reason : Interrupt → String
  | canceled => "context canceled"
  | deadline => "context deadline exceeded"

def fault (i : Interrupt) : Fault :=
  .plain i.reason

end Interrupt

/-- How long work may go on: it has been called off, or a run may take so many steps. -/
inductive Allowance where
  | canceled
  | steps (n : Nat)
  deriving DecidableEq, Repr

namespace Allowance

/-- More steps than any run takes that someone waits for. -/
def ample : Allowance :=
  .steps (Nat.pow 2 62)

/-- Why work may not even start. -/
def interrupt? : Allowance → Option Interrupt
  | canceled => some .canceled
  | steps 0 => some .deadline
  | steps (_ + 1) => none

end Allowance
end TapeWasm
