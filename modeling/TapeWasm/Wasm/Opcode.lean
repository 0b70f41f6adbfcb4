import TapeWasm.Bytes
import TapeWasm.Wasm.ValueType

/-!
The instruction set: opcode bytes, their names, what immediate follows each, and what the plain
numeric ones do to the operand stack.
-/
namespace TapeWasm.Wasm

namespace Op
@[match_pattern] abbrev unreachable : UInt8 := 0x00
@[match_pattern] abbrev nop : UInt8 := 0x01
@[match_pattern] abbrev block : UInt8 := 0x02
@[match_pattern] abbrev loop : UInt8 := 0x03
@[match_pattern] abbrev ifThen : UInt8 := 0x04
@[match_pattern] abbrev otherwise : UInt8 := 0x05
@[match_pattern] abbrev stop : UInt8 := 0x0b
@[match_pattern] abbrev br : UInt8 := 0x0c
@[match_pattern] abbrev brIf : UInt8 := 0x0d
@[match_pattern] abbrev brTable : UInt8 := 0x0e
@[match_pattern] abbrev ret : UInt8 := 0x0f
@[match_pattern] abbrev call : UInt8 := 0x10
@[match_pattern] abbrev drop : UInt8 := 0x1a
@[match_pattern] abbrev select : UInt8 := 0x1b
@[match_pattern] abbrev localGet : UInt8 := 0x20
@[match_pattern] abbrev localSet : UInt8 := 0x21
@[match_pattern] abbrev localTee : UInt8 := 0x22
@[match_pattern] abbrev globalGet : UInt8 := 0x23
@[match_pattern] abbrev globalSet : UInt8 := 0x24
@[match_pattern] abbrev i32Load : UInt8 := 0x28
@[match_pattern] abbrev i64Load : UInt8 := 0x29
@[match_pattern] abbrev i32Load8S : UInt8 := 0x2c
@[match_pattern] abbrev i32Load8U : UInt8 := 0x2d
@[match_pattern] abbrev i32Load16S : UInt8 := 0x2e
@[match_pattern] abbrev i32Load16U : UInt8 := 0x2f
@[match_pattern] abbrev i32Store : UInt8 := 0x36
@[match_pattern] abbrev i64Store : UInt8 := 0x37
@[match_pattern] abbrev i32Store8 : UInt8 := 0x3a
@[match_pattern] abbrev i32Store16 : UInt8 := 0x3b
@[match_pattern] abbrev memorySize : UInt8 := 0x3f
@[match_pattern] abbrev memoryGrow : UInt8 := 0x40
@[match_pattern] abbrev i32Const : UInt8 := 0x41
@[match_pattern] abbrev i64Const : UInt8 := 0x42
@[match_pattern] abbrev i32Eqz : UInt8 := 0x45
@[match_pattern] abbrev i32Eq : UInt8 := 0x46
@[match_pattern] abbrev i32Ne : UInt8 := 0x47
@[match_pattern] abbrev i32GeU : UInt8 := 0x4f
@[match_pattern] abbrev i64Eqz : UInt8 := 0x50
@[match_pattern] abbrev i64Eq : UInt8 := 0x51
@[match_pattern] abbrev i64Ne : UInt8 := 0x52
@[match_pattern] abbrev i32Clz : UInt8 := 0x67
@[match_pattern] abbrev i32Popcnt : UInt8 := 0x69
@[match_pattern] abbrev i32Add : UInt8 := 0x6a
@[match_pattern] abbrev i32Sub : UInt8 := 0x6b
@[match_pattern] abbrev i32Rotr : UInt8 := 0x78
@[match_pattern] abbrev i64Add : UInt8 := 0x7c
@[match_pattern] abbrev i64Mul : UInt8 := 0x7e
@[match_pattern] abbrev i32WrapI64 : UInt8 := 0xa7
@[match_pattern] abbrev i64ExtendI32S : UInt8 := 0xac
@[match_pattern] abbrev i64ExtendI32U : UInt8 := 0xad
@[match_pattern] abbrev i32Extend8S : UInt8 := 0xc0
@[match_pattern] abbrev i32Extend16S : UInt8 := 0xc1

def name? (op : UInt8) : Option String :=
  match op with
  | 0x00 => some "unreachable"
  | 0x01 => some "nop"
  | 0x02 => some "block"
  | 0x03 => some "loop"
  | 0x04 => some "if"
  | 0x05 => some "else"
  | 0x0b => some "end"
  | 0x0c => some "br"
  | 0x0d => some "br_if"
  | 0x0e => some "br_table"
  | 0x0f => some "return"
  | 0x10 => some "call"
  | 0x1a => some "drop"
  | 0x1b => some "select"
  | 0x20 => some "local.get"
  | 0x21 => some "local.set"
  | 0x22 => some "local.tee"
  | 0x23 => some "global.get"
  | 0x24 => some "global.set"
  | 0x28 => some "i32.load"
  | 0x29 => some "i64.load"
  | 0x2c => some "i32.load8_s"
  | 0x2d => some "i32.load8_u"
  | 0x2e => some "i32.load16_s"
  | 0x2f => some "i32.load16_u"
  | 0x36 => some "i32.store"
  | 0x37 => some "i64.store"
  | 0x3a => some "i32.store8"
  | 0x3b => some "i32.store16"
  | 0x3f => some "memory.size"
  | 0x40 => some "memory.grow"
  | 0x41 => some "i32.const"
  | 0x42 => some "i64.const"
  | 0x45 => some "i32.eqz"
  | 0x46 => some "i32.eq"
  | 0x47 => some "i32.ne"
  | 0x48 => some "i32.lt_s"
  | 0x49 => some "i32.lt_u"
  | 0x4a => some "i32.gt_s"
  | 0x4b => some "i32.gt_u"
  | 0x4c => some "i32.le_s"
  | 0x4d => some "i32.le_u"
  | 0x4e => some "i32.ge_s"
  | 0x4f => some "i32.ge_u"
  | 0x50 => some "i64.eqz"
  | 0x51 => some "i64.eq"
  | 0x52 => some "i64.ne"
  | 0x67 => some "i32.clz"
  | 0x68 => some "i32.ctz"
  | 0x69 => some "i32.popcnt"
  | 0x6a => some "i32.add"
  | 0x6b => some "i32.sub"
  | 0x6c => some "i32.mul"
  | 0x6d => some "i32.div_s"
  | 0x6e => some "i32.div_u"
  | 0x6f => some "i32.rem_s"
  | 0x70 => some "i32.rem_u"
  | 0x71 => some "i32.and"
  | 0x72 => some "i32.or"
  | 0x73 => some "i32.xor"
  | 0x74 => some "i32.shl"
  | 0x75 => some "i32.shr_s"
  | 0x76 => some "i32.shr_u"
  | 0x77 => some "i32.rotl"
  | 0x78 => some "i32.rotr"
  | 0x7c => some "i64.add"
  | 0x7d => some "i64.sub"
  | 0x7e => some "i64.mul"
  | 0xa7 => some "i32.wrap_i64"
  | 0xac => some "i64.extend_i32_s"
  | 0xad => some "i64.extend_i32_u"
  | 0xc0 => some "i32.extend8_s"
  | 0xc1 => some "i32.extend16_s"
  | _ => none

def name (op : UInt8) : String :=
  (name? op).getD ("0x" ++ Bytes.hexOf op)

end Op

/-- What a numeric instruction takes from the operand stack and leaves there, as a function type. -/
def numericType? (op : UInt8) : Option FuncType :=
  let i32 := ValueType.i32
  let i64 := ValueType.i64
  if op = Op.i32Eqz then some ⟨[i32], [i32]⟩
  else if Op.i32Eq ≤ op ∧ op ≤ Op.i32GeU then some ⟨[i32, i32], [i32]⟩
  else if op = Op.i64Eqz then some ⟨[i64], [i32]⟩
  else if op = Op.i64Eq ∨ op = Op.i64Ne then some ⟨[i64, i64], [i32]⟩
  else if Op.i32Clz ≤ op ∧ op ≤ Op.i32Popcnt then some ⟨[i32], [i32]⟩
  else if Op.i32Add ≤ op ∧ op ≤ Op.i32Rotr then some ⟨[i32, i32], [i32]⟩
  else if Op.i64Add ≤ op ∧ op ≤ Op.i64Mul then some ⟨[i64, i64], [i64]⟩
  else if op = Op.i32WrapI64 then some ⟨[i64], [i32]⟩
  else if op = Op.i64ExtendI32S ∨ op = Op.i64ExtendI32U then some ⟨[i32], [i64]⟩
  else if op = Op.i32Extend8S ∨ op = Op.i32Extend16S then some ⟨[i32], [i32]⟩
  else none

/-- A memory instruction: the type it moves, the largest alignment exponent it may claim, and which
way it moves. -/
structure Access where
  value : ValueType
  naturalAlign : UInt32
  isStore : Bool
  deriving DecidableEq, Repr

def access? (op : UInt8) : Option Access :=
  match op with
  | Op.i32Load => some ⟨.i32, 2, false⟩
  | Op.i64Load => some ⟨.i64, 3, false⟩
  | Op.i32Load8S => some ⟨.i32, 0, false⟩
  | Op.i32Load8U => some ⟨.i32, 0, false⟩
  | Op.i32Load16S => some ⟨.i32, 1, false⟩
  | Op.i32Load16U => some ⟨.i32, 1, false⟩
  | Op.i32Store => some ⟨.i32, 2, true⟩
  | Op.i64Store => some ⟨.i64, 3, true⟩
  | Op.i32Store8 => some ⟨.i32, 0, true⟩
  | Op.i32Store16 => some ⟨.i32, 1, true⟩
  | _ => none

inductive Shape where
  | bare
  | block
  | branch
  | table
  | call
  | localVar
  | globalVar
  | memory
  | memoryIndex
  | i32
  | i64
  deriving DecidableEq, Repr

def shape? (op : UInt8) : Option Shape :=
  match op with
  | Op.unreachable | Op.nop | Op.otherwise | Op.stop | Op.ret | Op.drop | Op.select => some .bare
  | Op.block | Op.loop | Op.ifThen => some .block
  | Op.br | Op.brIf => some .branch
  | Op.brTable => some .table
  | Op.call => some .call
  | Op.localGet | Op.localSet | Op.localTee => some .localVar
  | Op.globalGet | Op.globalSet => some .globalVar
  | Op.memorySize | Op.memoryGrow => some .memoryIndex
  | Op.i32Const => some .i32
  | Op.i64Const => some .i64
  | _ =>
    if (access? op).isSome then some .memory
    else if (numericType? op).isSome then some .bare
    else none

end TapeWasm.Wasm
