import TapeWasm.Command.Line

/-!
The command line over real files and streams. Tools cannot be started from here, so that a command
that wants one finds none, and native code is kept for the length of a command only.
-/
namespace TapeWasm.Command

def ioReason (path : String) : IO.Error → String
  | .noFileOrDirectory _ _ _ => "open " ++ path ++ ": " ++ World.noEntry
  | .permissionDenied _ _ _ => "open " ++ path ++ ": permission denied"
  | .inappropriateType _ _ _ => "open " ++ path ++ ": " ++ World.isDirectory
  | e => "open " ++ path ++ ": " ++ toString e

def noTools : Toolbox where
  locate name :=
    .error ("exec: " ++ Text.quote name ++ ": executable file not found in $PATH")
  scratch dir before after := .error ("open " ++ dir ++ "/" ++ before ++ after ++ ": no tools")
  run _ _ _ := { failure := some "no tools", complaint := "", answer := none }

def readFile (path : String) : IO (Except String Bytes) := do
  try
    let b ← IO.FS.readBinFile path
    return .ok b.toList
  catch e => return .error (ioReason path e)

def writeFile (path : String) (content : Bytes) : IO (Except String Unit) := do
  try
    IO.FS.writeBinFile path ⟨content.toArray⟩
    return .ok ()
  catch e => return .error (ioReason path e)

partial def readAll (s : IO.FS.Stream) (acc : ByteArray) : IO ByteArray := do
  let b ← s.read 65536
  if b.isEmpty then return acc else readAll s (acc ++ b)

/-- Runs a script over real files and streams. -/
def Script.perform : Script → IO UInt32
  | .read path next => do (next (← readFile path)).perform
  | .openInput path next => do (next (← readFile path)).perform
  | .standardInput next => do
    let b ← readAll (← IO.getStdin) .empty
    (next b.toList).perform
  | .tools next => (next noTools).perform
  | .clock next => do
    let n ← IO.monoNanosNow
    (next ⟨n⟩).perform
  | .work task next => (next (task { nodes := [(["tmp"], .directory)] }).1).perform
  | .write path content next => do (next (← writeFile path content)).perform
  | .output content next => do
    let out ← IO.getStdout
    out.write ⟨content.toArray⟩
    out.flush
    next.perform
  | .say text next => do
    IO.eprint text
    next.perform
  | .exit code => return code.toUInt32

end TapeWasm.Command

def main (args : List String) : IO UInt32 :=
  (TapeWasm.Command.script {} args).perform
