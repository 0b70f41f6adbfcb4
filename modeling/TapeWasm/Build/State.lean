/-!
The states that a build goes through, in order.
-/
namespace TapeWasm

inductive BuildState where
  | new
  | parsed
  | generated
  | validated
  | optimized
  | compiled
  | terminal
  deriving DecidableEq, Repr

namespace BuildState

def rank : BuildState → Nat
  | new => 0
  | parsed => 1
  | generated => 2
  | validated => 3
  | optimized => 4
  | compiled => 5
  | terminal => 6

def name : BuildState → String
  | new => "new"
  | parsed => "parsed"
  | generated => "generated"
  | validated => "validated"
  | optimized => "optimized"
  | compiled => "compiled"
  | terminal => "terminal"

def next : BuildState → BuildState
  | new => parsed
  | parsed => generated
  | generated => validated
  | validated => optimized
  | optimized => compiled
  | compiled => terminal
  | terminal => terminal

def all : List BuildState :=
  [new, parsed, generated, validated, optimized, compiled, terminal]

/-- The name of the state of a rank, also of ranks that no state has. -/
def nameOfRank (n : Nat) : String :=
  match all[n]? with
  | some s => s.name
  | none => "state(" ++ toString n ++ ")"

@[simp] theorem nameOfRank_rank (s : BuildState) : nameOfRank s.rank = s.name := by
  cases s <;> rfl

end BuildState
end TapeWasm
