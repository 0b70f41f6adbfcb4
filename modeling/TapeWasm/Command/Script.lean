import TapeWasm.Build.Operation
import TapeWasm.Text.Duration

/-!
What a command does to its surroundings, as a tree of requests: each says what it wants and how to
go on with the answer. The same script runs over files in memory and over real ones.
-/
namespace TapeWasm.Command

inductive Script where
  /-- Reads a whole file; the answer is its content, or why there is none. -/
  | read (path : String) (next : Except String Bytes → Script)
  /-- Opens a file as the program's input. -/
  | openInput (path : String) (next : Except String Bytes → Script)
  /-- Takes the standard input as the program's input. -/
  | standardInput (next : Bytes → Script)
  /-- Asks for the tools at hand. -/
  | tools (next : Toolbox → Script)
  /-- Asks for the time since some fixed point. -/
  | clock (next : Duration → Script)
  /-- Puts a pipeline to work, which may do something to files; the answer is its reply. -/
  | work (task : World → Reply × World) (next : Reply → Script)
  | write (path : String) (content : Bytes) (next : Except String Unit → Script)
  /-- Writes to the standard output. -/
  | output (content : Bytes) (next : Script)
  /-- Writes to the stream for messages. -/
  | say (text : String) (next : Script)
  | exit (code : UInt8)

structure Outcome where
  code : UInt8
  output : Bytes := []
  messages : String := ""
  world : World
  /-- What pipelines that were put to work have answered. -/
  replies : List Reply := []

/-- Runs a script over files in memory. Time stands still. -/
def Script.run (input : Bytes) : Script → Outcome → Outcome
  | .read path next, o => (next (o.world.read (.ofString path))).run input o
  | .openInput path next, o => (next (o.world.openInput (.ofString path))).run input o
  | .standardInput next, o => (next input).run input o
  | .tools next, o => (next o.world.toolbox).run input o
  | .clock next, o => (next ⟨0⟩).run input o
  | .work task next, o =>
    let r := task o.world
    (next r.1).run input { o with world := r.2, replies := o.replies ++ [r.1] }
  | .write path content next, o =>
    match o.world.write (.ofString path) content with
    | .ok world => (next (.ok ())).run input { o with world }
    | .error why => (next (.error why)).run input o
  | .output content next, o => next.run input { o with output := o.output ++ content }
  | .say text next, o => next.run input { o with messages := o.messages ++ text }
  | .exit code, o => { o with code }

end TapeWasm.Command
