import TapeWasm.Proofs.Codec.Instr
import TapeWasm.Proofs.Typing.Rules

/-!
The instruction set. `Instr.Supported` lists the instructions by what stands behind their opcode.
They are the instructions that can be read back from what is written of them, and no others are ever
read.
-/
namespace TapeWasm.Wasm

/-- The instructions of the format: an opcode with the immediate that it takes. -/
inductive Instr.Supported : Instr → Prop
  | control {op : UInt8}
      (h : op ∈ [Op.unreachable, Op.nop, Op.otherwise, Op.stop, Op.ret, Op.drop, Op.select]) :
      Supported ⟨op, .none⟩
  | numeric {op : UInt8} {type : FuncType} (h : Op.Numeric op type) : Supported ⟨op, .none⟩
  | block {op : UInt8} (h : op ∈ [Op.block, Op.loop, Op.ifThen]) (type : Int32) :
      Supported ⟨op, .block type⟩
  | branch {op : UInt8} (h : op ∈ [Op.br, Op.brIf]) (label : UInt32) : Supported ⟨op, .branch label⟩
  -- The labels of a table are counted by a number of 32 bits.
  | table {labels : List UInt32} (h : labels.length < 2 ^ 32) (fallback : UInt32) :
      Supported ⟨Op.brTable, .table labels fallback⟩
  | call (func : UInt32) : Supported ⟨Op.call, .call func⟩
  | localVar {op : UInt8} (h : op ∈ [Op.localGet, Op.localSet, Op.localTee]) (index : UInt32) :
      Supported ⟨op, .localVar index⟩
  | globalVar {op : UInt8} (h : op ∈ [Op.globalGet, Op.globalSet]) (index : UInt32) :
      Supported ⟨op, .globalVar index⟩
  | load {op : UInt8} {type : ValueType} {bytes : Nat} (h : Op.Loads op type bytes)
      (arg : MemArg) : Supported ⟨op, .memory arg⟩
  | store {op : UInt8} {type : ValueType} {bytes : Nat} (h : Op.Stores op type bytes)
      (arg : MemArg) : Supported ⟨op, .memory arg⟩
  | memoryIndex {op : UInt8} (h : op ∈ [Op.memorySize, Op.memoryGrow]) (index : UInt32) :
      Supported ⟨op, .memoryIndex index⟩
  | i32 (value : Int32) : Supported ⟨Op.i32Const, .i32 value⟩
  | i64 (value : Int64) : Supported ⟨Op.i64Const, .i64 value⟩

namespace Instr

/-- The decoder's table gives the opcodes of the list the shape that they have. -/
theorem shape?_of_mem {op : UInt8} {ops : List UInt8} {s : Shape} (hop : op ∈ ops)
    (hops : ops.all (shape? · = some s)) : shape? op = some s :=
  of_decide_eq_true (List.all_eq_true.mp hops op hop)

theorem shape?_of_numeric {op : UInt8} {type : FuncType} (h : Op.Numeric op type) :
    shape? op = some .bare := by
  cases h with
  | i32Unary h | i32Binary h | i64ToI32 h | i64Compare h | i64Binary h | i64Extend h =>
    exact shape?_of_mem h rfl

theorem Supported.encodable {i : Instr} (h : i.Supported) : i.Encodable := by
  cases h with
  | control h => exact ⟨shape?_of_mem h rfl, trivial⟩
  | numeric h => exact ⟨shape?_of_numeric h, trivial⟩
  | block h | branch h | localVar h | globalVar h | memoryIndex h =>
    exact ⟨shape?_of_mem h rfl, trivial⟩
  | table h => exact ⟨rfl, h⟩
  | call | i32 | i64 => exact ⟨rfl, trivial⟩
  | load h | store h => exact ⟨by cases h <;> rfl, trivial⟩

theorem Encodable.supported {i : Instr} (h : i.Encodable) : i.Supported := by
  obtain ⟨op, imm⟩ := i
  have htakes : imm.shape.Takes op := Shape.takes_of_shape? h.wellShaped
  cases imm with
  | none =>
    rcases htakes with hop | ⟨type, htype⟩
    · exact .control hop
    · exact .numeric (Op.numeric_of_numericType? htype)
  | block t => exact .block htakes t
  | branch l => exact .branch htakes l
  | table ls d =>
    obtain rfl : op = Op.brTable := htakes
    exact .table h.countable d
  | call f =>
    obtain rfl : op = Op.call := htakes
    exact .call f
  | localVar n => exact .localVar htakes n
  | globalVar n => exact .globalVar htakes n
  | memory arg =>
    obtain ⟨acc, hacc⟩ := htakes
    rcases Op.loads_or_stores_of_access? hacc with ⟨-, hload⟩ | ⟨-, hstore⟩
    · exact .load hload arg
    · exact .store hstore arg
  | memoryIndex n => exact .memoryIndex htakes n
  | i32 k =>
    obtain rfl : op = Op.i32Const := htakes
    exact .i32 k
  | i64 k =>
    obtain rfl : op = Op.i64Const := htakes
    exact .i64 k

/-- What the decoder can give are the instructions of the format. -/
theorem supported_iff_encodable {i : Instr} : i.Supported ↔ i.Encodable :=
  ⟨Supported.encodable, Encodable.supported⟩

/-- Instructions are read back from what is written of them if and only if they are all of the
format. Whatever is read from a byte string is of the format, is read back from what is written of
it, and is written in no more bytes. -/
theorem decodeAll_encodeAll_iff (is : List Instr) :
    ((∀ i ∈ is, i.Supported) ↔ decodeAll (encodeAll is) = .ok is) ∧
    ∀ code, decodeAll code = .ok is →
      (∀ i ∈ is, i.Supported) ∧ decodeAll (encodeAll is) = .ok is ∧
        (encodeAll is).length ≤ code.length := by
  simp only [supported_iff_encodable]
  refine ⟨⟨decodeAll_encodeAll, fun h => (decodeAll_ok h).1⟩, ?_⟩
  intro code h
  obtain ⟨hencodable, hle⟩ := decodeAll_ok h
  exact ⟨hencodable, decodeAll_encodeAll hencodable, hle⟩

/-- A constant in more bytes than it needs, a table of branches and an offset of two bytes. -/
theorem decodeAll_encodeAll_iff_table :
    let code : Bytes := [0x41, 0xfc, 0xff, 0x7f, 0x0e, 2, 0, 0x81, 0, 1, 0x28, 2, 0x80, 1, 0x0b]
    let is : List Instr :=
      [⟨Op.i32Const, .i32 (-4)⟩, ⟨Op.brTable, .table [0, 1] 1⟩, ⟨Op.i32Load, .memory ⟨2, 128⟩⟩,
       ⟨Op.stop, .none⟩]
    decodeAll code = .ok is ∧ (∀ i ∈ is, i.Supported) ∧ decodeAll (encodeAll is) = .ok is ∧
      (encodeAll is).length ≤ code.length ∧ encodeAll is ≠ code := by
  intro code is
  have h : decodeAll code = .ok is := rfl
  obtain ⟨hsupported, hread, hle⟩ := (decodeAll_encodeAll_iff is).2 code h
  exact ⟨h, hsupported, hread, hle, by decide +kernel⟩

end Instr
end TapeWasm.Wasm
