import TapeWasm.Wasm.Instr

/-!
Groups of instructions that the peephole works with: a move of a local variable by a constant, a
change of a memory word by a constant, a memory word set to zero, and any other instruction alone.
-/
namespace TapeWasm.Peephole

open Wasm

inductive Group where
  | raw (instr : Instr)
  | move (var : UInt32) (delta : Int32)
  | change (var : UInt32) (arg : MemArg) (delta : Int32)
  | clear (var : UInt32) (arg : MemArg)
  deriving DecidableEq, Repr

/-- The local variable of an instruction with the given opcode. -/
def accessed? (op : UInt8) (i : Instr) : Option UInt32 :=
  if i.op = op then
    match i.imm with
    | .localVar n => some n
    | _ => none
  else none

def constant? (i : Instr) : Option Int32 :=
  if i.op = Op.i32Const then
    match i.imm with
    | .i32 v => some v
    | _ => none
  else none

/-- A constant with the sign of the addition or subtraction that uses it. -/
def signed? (i : Instr) (v : Int32) : Option Int32 :=
  match i.op with
  | Op.i32Add => some v
  | Op.i32Sub => some (-v)
  | _ => none

def memoryOf? (op : UInt8) (i : Instr) : Option MemArg :=
  if i.op = op then
    match i.imm with
    | .memory a => some a
    | _ => none
  else none

/-- A move: a variable is read, a constant is added or subtracted, and the variable is written. -/
def move? (i0 i1 i2 i3 : Instr) : Option Group := do
  let source ← accessed? Op.localGet i0
  let k ← constant? i1
  let delta ← signed? i2 k
  let target ← accessed? Op.localSet i3
  if source = target then some (.move source delta) else none

/-- A change: the word at a variable's address is read, moved by a constant and written back. -/
def change? (i0 i1 i2 i3 i4 i5 : Instr) : Option Group := do
  let address ← accessed? Op.localGet i0
  let source ← accessed? Op.localGet i1
  let loaded ← memoryOf? Op.i32Load i2
  let k ← constant? i3
  let delta ← signed? i4 k
  let stored ← memoryOf? Op.i32Store i5
  if address = source ∧ loaded = stored then some (.change address loaded delta) else none

/-- The group at the front of a list of instructions and the number of instructions after its
first. -/
def groupAt (i : Instr) (rest : List Instr) : Group × Nat :=
  let asMove :=
    match rest with
    | i1 :: i2 :: i3 :: _ => move? i i1 i2 i3
    | _ => none
  match asMove with
  | some g => (g, 3)
  | none =>
    let asChange :=
      match rest with
      | i1 :: i2 :: i3 :: i4 :: i5 :: _ => change? i i1 i2 i3 i4 i5
      | _ => none
    match asChange with
    | some g => (g, 5)
    | none => (.raw i, 0)

/-- The instruction and constant that move by `delta`: a subtraction where that makes the constant
positive. -/
def stepBy (delta : Int32) : UInt8 × Int32 :=
  if delta < 0 ∧ delta ≠ -delta then (Op.i32Sub, -delta) else (Op.i32Add, delta)

namespace Group

def code : Group → List Instr
  | raw i => [i]
  | move v delta =>
    let (op, k) := stepBy delta
    [⟨Op.localGet, .localVar v⟩, ⟨Op.i32Const, .i32 k⟩, ⟨op, .none⟩, ⟨Op.localSet, .localVar v⟩]
  | change v arg delta =>
    let (op, k) := stepBy delta
    [⟨Op.localGet, .localVar v⟩, ⟨Op.localGet, .localVar v⟩, ⟨Op.i32Load, .memory arg⟩,
     ⟨Op.i32Const, .i32 k⟩, ⟨op, .none⟩, ⟨Op.i32Store, .memory arg⟩]
  | clear v arg =>
    [⟨Op.localGet, .localVar v⟩, ⟨Op.i32Const, .i32 0⟩, ⟨Op.i32Store, .memory arg⟩]

end Group
end TapeWasm.Peephole
