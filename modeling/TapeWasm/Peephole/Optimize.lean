import TapeWasm.Interrupt
import TapeWasm.Peephole.Condense
import TapeWasm.Wasm.Instr.Decode
import TapeWasm.Wasm.Module.Decode

/-!
The peephole on whole modules: every body is condensed and nothing else is touched.
-/
namespace TapeWasm.Peephole

open Wasm

def condenseBody (b : Body) : Except DecodeFault Body :=
  match Instr.decodeAll b.code with
  | .ok code => .ok { b with code := Instr.encodeAll (condense code) }
  | .error f => .error f

/-- Condenses the bodies from number `n` on. A call to stop is looked at before every body. -/
def condenseBodies (stop : Option Interrupt) : List Body → Nat → Except Fault (List Body)
  | [], _ => .ok []
  | b :: bs, n =>
    match stop with
    | some i =>
      .error (.wrap Phase.optimize Kind.toolFailed (some i.fault) "peephole cancelled")
    | none =>
      match condenseBody b with
      | .error f =>
        .error (.wrap Phase.optimize Kind.invalidData (some (.plain f.message))
          ("decode body " ++ toString n))
      | .ok b' => do
        let bs' ← condenseBodies stop bs (n + 1)
        return b' :: bs'

def optimize (stop : Option Interrupt) (bytes : Bytes) : Except Fault Bytes :=
  match Module.decode bytes with
  | .error f =>
    .error (.wrap Phase.optimize Kind.invalidData (some (.plain f.message)) "decode module")
  | .ok m => do
    let bodies ← condenseBodies stop m.bodies 0
    return Module.encode { m with bodies }

end TapeWasm.Peephole
