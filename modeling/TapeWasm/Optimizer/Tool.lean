import TapeWasm.Fault.Stage
import TapeWasm.Interrupt

/-!
Optimizing with an external tool. The tool gets the module in one file and leaves its answer in
another.
-/
namespace TapeWasm

/-- How a tool came out: why it failed, if it did, what it complained of, and what it left in the
file for its answer, if that is still there. -/
structure ToolRun where
  failure : Option String
  complaint : String
  answer : Option Bytes

structure Toolbox where
  /-- The executable that a name stands for, or why there is none. -/
  locate : String → Except String String
  /-- A fresh file in a directory, its name made of two parts around a number. -/
  scratch : (dir before after : String) → Except String String
  /-- Runs an executable with arguments, the module being in the first file named. -/
  run : (executable : String) → (arguments : List String) → Bytes → ToolRun

/-- Which tool to use and how. No flags given means the default ones, and no directory means the
one for temporary files. -/
structure ToolSetup where
  path : String := ""
  flags : Option (List String) := none
  tempDir : String := ""
  deriving DecidableEq, Repr

namespace ToolSetup

def toolProgram : String := "wasm-opt"

def defaultFlags : List String :=
  ["--flatten", "--precompute", "--optimize-instructions", "--local-cse"]

def executable (t : ToolSetup) : String :=
  if t.path = "" then toolProgram else t.path

def arguments (t : ToolSetup) (input output : String) : List String :=
  [input, "-o", output] ++ t.flags.getD defaultFlags

/-- The cause of a failed run, under the interrupt that may have stopped it. -/
def failureCause (a : Allowance) (reason : String) : Fault :=
  match a.interrupt? with
  | some i => .join [i.fault, i.fault]
  | none => .plain reason

def optimize (t : ToolSetup) (box : Toolbox) (a : Allowance) (module : Bytes) :
    Except Fault Bytes :=
  let scratch (stem : String) : Except Fault String :=
    match box.scratch t.tempDir stem ".wasm" with
    | .ok file => .ok file
    | .error reason => .error (.io Phase.optimize t.tempDir (some (.plain reason)))
  match box.locate t.executable with
  | .error reason => .error (.toolMissing t.executable (some (.plain reason)))
  | .ok executable => do
    let input ← scratch "brainwasm-in-"
    let output ← scratch "brainwasm-out-"
    if a.interrupt?.isSome then
      .error (.toolFailed toolProgram "" (some (failureCause a "")))
    else
      let r := box.run executable (t.arguments input output) module
      match r.failure with
      | some reason => .error (.toolFailed toolProgram r.complaint (some (failureCause a reason)))
      | none =>
        match r.answer with
        | none =>
          .error (.io Phase.optimize output
            (some (.plain ("open " ++ output ++ ": no such file or directory"))))
        | some [] => .error (.toolFailed toolProgram "produced an empty module" none)
        | some b => .ok b

end ToolSetup
end TapeWasm
