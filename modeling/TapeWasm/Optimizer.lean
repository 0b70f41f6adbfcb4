import TapeWasm.Optimizer.Tool
import TapeWasm.Peephole.Optimize

/-!
Optimizers: they replace a module with another one.
-/
namespace TapeWasm

structure Optimizer where
  name : String
  apply : Allowance → Bytes → Except Fault Bytes

namespace Optimizer

def none : Optimizer where
  name := "none"
  apply _ b := .ok b

def peephole : Optimizer where
  name := "peephole"
  apply a b := Peephole.optimize a.interrupt? b

def tool (box : Toolbox) (setup : ToolSetup) : Optimizer where
  name := ToolSetup.toolProgram
  apply a b := setup.optimize box a b

def unknownKind (kind : String) : Fault :=
  .stage
    { phase := Phase.optimize
      kind := Kind.invalidInput
      subject := some (.text kind)
      detail := "unknown optimizer " ++ Text.quote kind } Option.none

/-- The optimizer of a kind; no kind means the external tool. -/
def ofKind (box : Toolbox) (kind : String) (setup : ToolSetup) : Except Fault Optimizer :=
  match kind with
  | "wasm-opt" | "" => .ok (tool box setup)
  | "peephole" => .ok peephole
  | "none" => .ok none
  | _ => .error (unknownKind kind)

end Optimizer
end TapeWasm
