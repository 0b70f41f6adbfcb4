import TapeWasm.Wasm.Instr
import TapeWasm.Wasm.Reader

/-!
Reading instructions from the bytes of a function body.
-/
namespace TapeWasm.Wasm.Instr

/-- The labels of a branch table, then the label taken when the index is past them. -/
def tableImmediate : Decoder Immediate := do
  let count ← Decoder.u32
  let left ← Decoder.remaining
  if left < count.toNat then Decoder.fail (.tableCount count.toNat)
  else
    let labels ← Decoder.items (fun _ => Decoder.u32) count.toNat
    let fallback ← Decoder.u32
    return .table labels fallback

def memArg : Decoder MemArg := do
  let align ← Decoder.u32
  let offset ← Decoder.u32
  return ⟨align, offset⟩

def immediate : Shape → Decoder Immediate
  | .bare => return .none
  | .block => return .block (← Decoder.s32)
  | .branch => return .branch (← Decoder.u32)
  | .table => tableImmediate
  | .call => return .call (← Decoder.u32)
  | .localVar => return .localVar (← Decoder.u32)
  | .globalVar => return .globalVar (← Decoder.u32)
  | .memory => return .memory (← memArg)
  | .memoryIndex => return .memoryIndex (← Decoder.u32)
  | .i32 => return .i32 (← Decoder.s32)
  | .i64 => return .i64 (← Decoder.s64)

def decodeOne : Decoder Instr := do
  let offset ← Decoder.position
  let op ← Decoder.byte
  match shape? op with
  | some shape =>
    let imm ← Decoder.within (.opcode op offset) (immediate shape)
    return ⟨op, imm⟩
  | none => Decoder.fail (.unsupportedOpcode op offset)

/-- Instructions up to the end of the bytes, after those in `acc`, last first. Every instruction
takes a byte, so there are no more of them than bytes. -/
def decodeFrom : Nat → Reader → List Instr → Except DecodeFault (List Instr)
  | 0, _, acc => .ok acc.reverse
  | fuel + 1, r, acc =>
    match r.rest with
    | [] => .ok acc.reverse
    | _ :: _ =>
      match decodeOne r with
      | .ok i r' => decodeFrom fuel r' (i :: acc)
      | .error f _ => .error f

def decodeAll (code : Bytes) : Except DecodeFault (List Instr) :=
  decodeFrom code.length ⟨code, 0⟩ []

end TapeWasm.Wasm.Instr
