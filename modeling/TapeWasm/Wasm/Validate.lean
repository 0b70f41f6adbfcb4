import TapeWasm.Wasm.Module.Decode
import TapeWasm.Wasm.Structure
import TapeWasm.Wasm.Typing

/-!
Validation of encoded modules: decoding, structure, bodies, in this order.
-/
namespace TapeWasm.Wasm

inductive ModuleFault where
  | decode (fault : DecodeFault)
  | structure (fault : StructureFault)
  | typing (fault : TypingFault)
  deriving DecidableEq, Repr

namespace ModuleFault

def message : ModuleFault → String
  | decode f => f.message
  | .structure f => f.message
  | typing f => f.message

def decodeRoot? : ModuleFault → Option DecodeFault
  | decode f => some f.root
  | .structure _ => none
  | typing f => typingRoot? f
where
  typingRoot? : TypingFault → Option DecodeFault
    | .code f => some f.root
    | .atInstr _ _ f => typingRoot? f
    | .inFunction _ f => typingRoot? f
    | _ => none

end ModuleFault

namespace Module

def decodeChecked (b : Bytes) : Except ModuleFault Module :=
  match decode b with
  | .error f => .error (.decode f)
  | .ok m =>
    match m.checkStructure with
    | .error f => .error (.structure f)
    | .ok () => .ok m

def validateBytes (b : Bytes) : Except ModuleFault Unit :=
  match decodeChecked b with
  | .error f => .error f
  | .ok m =>
    match m.checkBodies with
    | .error f => .error (.typing f)
    | .ok () => .ok ()

end Module
end TapeWasm.Wasm
