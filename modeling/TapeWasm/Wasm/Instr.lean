import TapeWasm.Wasm.Opcode
import TapeWasm.Wasm.Varint

/-!
Instructions: an opcode and an immediate. The two need not fit; `Instr.WellShaped` says when they
do. Encoding writes whatever immediate is there.
-/
namespace TapeWasm.Wasm

/-- Alignment exponent and offset of a memory instruction. -/
structure MemArg where
  align : UInt32
  offset : UInt32
  deriving DecidableEq, Repr

inductive Immediate where
  | none
  | block (type : Int32)
  | branch (label : UInt32)
  | table (labels : List UInt32) (fallback : UInt32)
  | call (func : UInt32)
  | localVar (index : UInt32)
  | globalVar (index : UInt32)
  | memory (arg : MemArg)
  | memoryIndex (index : UInt32)
  | i32 (value : Int32)
  | i64 (value : Int64)
  deriving DecidableEq, Repr

/-- The type of a block that takes and leaves nothing. -/
def emptyType : Int32 := -64

namespace Immediate

def shape : Immediate → Shape
  | none => .bare
  | block _ => .block
  | branch _ => .branch
  | table _ _ => .table
  | call _ => .call
  | localVar _ => .localVar
  | globalVar _ => .globalVar
  | memory _ => .memory
  | memoryIndex _ => .memoryIndex
  | i32 _ => .i32
  | i64 _ => .i64

def encode : Immediate → Bytes
  | none => []
  | block t => Varint.encodeS32 t
  | branch l => Varint.encodeU32 l
  | table ls d =>
    Varint.encodeU32 (UInt32.ofNat ls.length) ++ ls.flatMap Varint.encodeU32 ++ Varint.encodeU32 d
  | call f => Varint.encodeU32 f
  | localVar i => Varint.encodeU32 i
  | globalVar i => Varint.encodeU32 i
  | memory a => Varint.encodeU32 a.align ++ Varint.encodeU32 a.offset
  | memoryIndex i => Varint.encodeU32 i
  | i32 v => Varint.encodeS32 v
  | i64 v => Varint.encodeS64 v

/-- An immediate as it stands after the name of its instruction. -/
def text : Immediate → String
  | none => ""
  | block t => " " ++ toString t.toInt
  | branch l => " " ++ toString l.toNat
  | table ls d =>
    " \x7b[" ++ " ".intercalate (ls.map fun l => toString l.toNat) ++ "] " ++
      toString d.toNat ++ "\x7d"
  | call f => " " ++ toString f.toNat
  | localVar i => " " ++ toString i.toNat
  | globalVar i => " " ++ toString i.toNat
  | memory a => " offset=" ++ toString a.offset.toNat ++ " align=" ++ toString a.align.toNat
  | memoryIndex i => " \x7b" ++ toString i.toNat ++ "\x7d"
  | i32 v => " " ++ toString v.toInt
  | i64 v => " " ++ toString v.toInt

end Immediate

structure Instr where
  op : UInt8
  imm : Immediate := .none
  deriving DecidableEq, Repr

namespace Instr

/-- The opcode is a supported one and the immediate is of the kind it takes. -/
def WellShaped (i : Instr) : Prop :=
  shape? i.op = some i.imm.shape

instance (i : Instr) : Decidable i.WellShaped :=
  inferInstanceAs (Decidable (_ = _))

def encode (i : Instr) : Bytes :=
  i.op :: i.imm.encode

def encodeAll (is : List Instr) : Bytes :=
  is.flatMap encode

def text (i : Instr) : String :=
  Op.name i.op ++ i.imm.text

def callTarget? (i : Instr) : Option UInt32 :=
  match i.op, i.imm with
  | Op.call, .call f => some f
  | _, _ => none

@[simp] theorem encodeAll_nil : encodeAll [] = [] := rfl

@[simp] theorem encodeAll_cons (i : Instr) (is : List Instr) :
    encodeAll (i :: is) = i.encode ++ encodeAll is := rfl

@[simp] theorem encodeAll_append (is js : List Instr) :
    encodeAll (is ++ js) = encodeAll is ++ encodeAll js := by
  simp [encodeAll]

end Instr
end TapeWasm.Wasm
