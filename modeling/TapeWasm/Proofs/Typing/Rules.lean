import Mathlib.Algebra.Group.Nat.Defs
import TapeWasm.Wasm.Typing

/-!
The typing rules of code. They speak of the types of the operands before and after a piece of code,
the topmost operand last, and not of how a checker finds them. Code after a jump that is always
taken may have any type, since it is not reached.
-/
namespace TapeWasm.Wasm

/-- The numeric instructions by what they take and leave. -/
inductive Op.Numeric : UInt8 → FuncType → Prop
  -- `eqz`, `clz`, `ctz`, `popcnt`, `extend8_s`, `extend16_s`
  | i32Unary {op : UInt8} (h : op ∈ [0x45, 0x67, 0x68, 0x69, 0xc0, 0xc1]) :
      Numeric op ⟨[.i32], [.i32]⟩
  -- the comparisons from `eq` to `ge_u`, and the operations from `add` to `rotr`
  | i32Binary {op : UInt8}
      (h : op ∈ [0x46, 0x47, 0x48, 0x49, 0x4a, 0x4b, 0x4c, 0x4d, 0x4e, 0x4f, 0x6a, 0x6b, 0x6c,
        0x6d, 0x6e, 0x6f, 0x70, 0x71, 0x72, 0x73, 0x74, 0x75, 0x76, 0x77, 0x78]) :
      Numeric op ⟨[.i32, .i32], [.i32]⟩
  -- `i64.eqz` and `i32.wrap_i64`
  | i64ToI32 {op : UInt8} (h : op ∈ [0x50, 0xa7]) : Numeric op ⟨[.i64], [.i32]⟩
  -- `eq` and `ne`
  | i64Compare {op : UInt8} (h : op ∈ [0x51, 0x52]) : Numeric op ⟨[.i64, .i64], [.i32]⟩
  -- `add`, `sub` and `mul`
  | i64Binary {op : UInt8} (h : op ∈ [0x7c, 0x7d, 0x7e]) : Numeric op ⟨[.i64, .i64], [.i64]⟩
  -- `i64.extend_i32_s` and `i64.extend_i32_u`
  | i64Extend {op : UInt8} (h : op ∈ [0xac, 0xad]) : Numeric op ⟨[.i32], [.i64]⟩

/-- The instructions that read memory: the type they leave and how many bytes they read. -/
inductive Op.Loads : UInt8 → ValueType → Nat → Prop
  | i32 : Loads Op.i32Load .i32 4
  | i64 : Loads Op.i64Load .i64 8
  | byteSigned : Loads Op.i32Load8S .i32 1
  | byte : Loads Op.i32Load8U .i32 1
  | halfSigned : Loads Op.i32Load16S .i32 2
  | half : Loads Op.i32Load16U .i32 2

/-- The instructions that write memory: the type they take and how many bytes they write. -/
inductive Op.Stores : UInt8 → ValueType → Nat → Prop
  | i32 : Stores Op.i32Store .i32 4
  | i64 : Stores Op.i64Store .i64 8
  | byte : Stores Op.i32Store8 .i32 1
  | half : Stores Op.i32Store16 .i32 2

/-- What a block takes and leaves: nothing, one value, or a function type of the module. -/
inductive Module.BlockType (m : Module) : Int32 → FuncType → Prop
  | empty : BlockType m (-64) ⟨[], []⟩
  | i32 : BlockType m (-1) ⟨[], [.i32]⟩
  | i64 : BlockType m (-2) ⟨[], [.i64]⟩
  | f32 : BlockType m (-3) ⟨[], [.f32]⟩
  | f64 : BlockType m (-4) ⟨[], [.f64]⟩
  | index {t : Int32} {i : Nat} {type : FuncType} (ht : t.toInt = i)
      (hi : m.types[i]? = some type) : BlockType m t type

/-- The instructions with one type. The labels give what branches to the open blocks take along,
innermost first. -/
inductive Scope.Signature (s : Scope) (labels : List (List ValueType)) :
    Instr → FuncType → Prop
  | nop : Signature s labels ⟨Op.nop, .none⟩ ⟨[], []⟩
  | brIf {l : UInt32} {ts : List ValueType} (h : labels[l.toNat]? = some ts) :
      Signature s labels ⟨Op.brIf, .branch l⟩ ⟨ts ++ [.i32], ts⟩
  | call {f : UInt32} {type : FuncType} (h : s.module.funcType? f = some type) :
      Signature s labels ⟨Op.call, .call f⟩ type
  | localGet {n : UInt32} {t : ValueType} (h : s.locals[n.toNat]? = some t) :
      Signature s labels ⟨Op.localGet, .localVar n⟩ ⟨[], [t]⟩
  | localSet {n : UInt32} {t : ValueType} (h : s.locals[n.toNat]? = some t) :
      Signature s labels ⟨Op.localSet, .localVar n⟩ ⟨[t], []⟩
  | localTee {n : UInt32} {t : ValueType} (h : s.locals[n.toNat]? = some t) :
      Signature s labels ⟨Op.localTee, .localVar n⟩ ⟨[t], [t]⟩
  | globalGet {n : UInt32} {g : GlobalType} (h : s.module.globalType? n = some g) :
      Signature s labels ⟨Op.globalGet, .globalVar n⟩ ⟨[], [g.value]⟩
  | globalSet {n : UInt32} {g : GlobalType} (h : s.module.globalType? n = some g)
      (hmutable : g.isMutable = true) :
      Signature s labels ⟨Op.globalSet, .globalVar n⟩ ⟨[g.value], []⟩
  | load {op : UInt8} {t : ValueType} {bytes : Nat} {arg : MemArg} (hop : Op.Loads op t bytes)
      (hmemory : 0 < s.module.numMemories) (halign : 2 ^ arg.align.toNat ≤ bytes) :
      Signature s labels ⟨op, .memory arg⟩ ⟨[.i32], [t]⟩
  | store {op : UInt8} {t : ValueType} {bytes : Nat} {arg : MemArg} (hop : Op.Stores op t bytes)
      (hmemory : 0 < s.module.numMemories) (halign : 2 ^ arg.align.toNat ≤ bytes) :
      Signature s labels ⟨op, .memory arg⟩ ⟨[.i32, t], []⟩
  | memorySize {n : UInt32} (h : n.toNat < s.module.numMemories) :
      Signature s labels ⟨Op.memorySize, .memoryIndex n⟩ ⟨[], [.i32]⟩
  | memoryGrow {n : UInt32} (h : n.toNat < s.module.numMemories) :
      Signature s labels ⟨Op.memoryGrow, .memoryIndex n⟩ ⟨[.i32], [.i32]⟩
  | i32Const (k : Int32) : Signature s labels ⟨Op.i32Const, .i32 k⟩ ⟨[], [.i32]⟩
  | i64Const (k : Int64) : Signature s labels ⟨Op.i64Const, .i64 k⟩ ⟨[], [.i64]⟩
  | numeric {op : UInt8} {type : FuncType} (h : Op.Numeric op type) :
      Signature s labels ⟨op, .none⟩ type

/-- The instructions after which code is not reached, and the operands they take along. -/
inductive Scope.Jumps (s : Scope) (labels : List (List ValueType)) :
    Instr → List ValueType → Prop
  | unreachable : Jumps s labels ⟨Op.unreachable, .none⟩ []
  | br {l : UInt32} {ts : List ValueType} (h : labels[l.toNat]? = some ts) :
      Jumps s labels ⟨Op.br, .branch l⟩ ts
  | ret : Jumps s labels ⟨Op.ret, .none⟩ s.results

/-- The instruction takes operands of the first types and leaves operands of the second. -/
inductive Instr.HasType (s : Scope) (labels : List (List ValueType)) :
    Instr → List ValueType → List ValueType → Prop
  | fixed {i : Instr} {type : FuncType} (h : s.Signature labels i type) :
      HasType s labels i type.params type.results
  | jump {i : Instr} {ts : List ValueType} (h : s.Jumps labels i ts)
      (params results : List ValueType) : HasType s labels i (params ++ ts) results
  | drop (t : ValueType) : HasType s labels ⟨Op.drop, .none⟩ [t] []
  | select (t : ValueType) : HasType s labels ⟨Op.select, .none⟩ [t, t, .i32] [t]

/-- The instruction neither opens nor closes a block. -/
def Instr.IsPlain (i : Instr) : Prop :=
  i.op ∉ [Op.block, Op.loop, Op.ifThen, Op.otherwise, Op.stop]

/-- Code whose blocks are properly nested. -/
inductive Expr where
  | nil
  | plain (i : Instr) (h : i.IsPlain) (next : Expr)
  | block (type : Int32) (body next : Expr)
  | loop (type : Int32) (body next : Expr)
  | ifThen (type : Int32) (body next : Expr)
  | ifElse (type : Int32) (body other next : Expr)

namespace Expr

def code : Expr → List Instr
  | nil => []
  | plain i _ next => i :: next.code
  | block type body next =>
    ⟨Op.block, .block type⟩ :: (body.code ++ ⟨Op.stop, .none⟩ :: next.code)
  | loop type body next =>
    ⟨Op.loop, .block type⟩ :: (body.code ++ ⟨Op.stop, .none⟩ :: next.code)
  | ifThen type body next =>
    ⟨Op.ifThen, .block type⟩ :: (body.code ++ ⟨Op.stop, .none⟩ :: next.code)
  | ifElse type body other next =>
    ⟨Op.ifThen, .block type⟩ :: (body.code ++ ⟨Op.otherwise, .none⟩ ::
      (other.code ++ ⟨Op.stop, .none⟩ :: next.code))

/-- The code takes operands of the types `ts` to operands of the types `out`. Each instruction works
on the topmost ones and leaves those below as they are. A branch to a loop starts it again with its
parameters; a branch to any other block ends it with its results. -/
inductive HasType (s : Scope) :
    List (List ValueType) → Expr → List ValueType → List ValueType → Prop
  | nil (labels : List (List ValueType)) (ts : List ValueType) : HasType s labels .nil ts ts
  | plain {labels : List (List ValueType)} {i : Instr} {h : i.IsPlain} {next : Expr}
      {params results out : List ValueType} (below : List ValueType)
      (hi : i.HasType s labels params results)
      (hnext : HasType s labels next (below ++ results) out) :
      HasType s labels (.plain i h next) (below ++ params) out
  | block {labels : List (List ValueType)} {t : Int32} {body next : Expr} {type : FuncType}
      {out : List ValueType} (below : List ValueType) (ht : s.module.BlockType t type)
      (hbody : HasType s (type.results :: labels) body type.params type.results)
      (hnext : HasType s labels next (below ++ type.results) out) :
      HasType s labels (.block t body next) (below ++ type.params) out
  | loop {labels : List (List ValueType)} {t : Int32} {body next : Expr} {type : FuncType}
      {out : List ValueType} (below : List ValueType) (ht : s.module.BlockType t type)
      (hbody : HasType s (type.params :: labels) body type.params type.results)
      (hnext : HasType s labels next (below ++ type.results) out) :
      HasType s labels (.loop t body next) (below ++ type.params) out
  -- Without `else` the block may be passed over, so that it has to leave what it takes.
  | ifThen {labels : List (List ValueType)} {t : Int32} {body next : Expr} {type : FuncType}
      {out : List ValueType} (below : List ValueType) (ht : s.module.BlockType t type)
      (hsame : type.params = type.results)
      (hbody : HasType s (type.results :: labels) body type.params type.results)
      (hnext : HasType s labels next (below ++ type.results) out) :
      HasType s labels (.ifThen t body next) (below ++ (type.params ++ [.i32])) out
  | ifElse {labels : List (List ValueType)} {t : Int32} {body other next : Expr} {type : FuncType}
      {out : List ValueType} (below : List ValueType) (ht : s.module.BlockType t type)
      (hbody : HasType s (type.results :: labels) body type.params type.results)
      (hother : HasType s (type.results :: labels) other type.params type.results)
      (hnext : HasType s labels next (below ++ type.results) out) :
      HasType s labels (.ifElse t body other next) (below ++ (type.params ++ [.i32])) out

end Expr

/-! The tables of the checker agree with the rules. -/

theorem Module.blockType_eq_ok_iff {m : Module} {t : Int32} {type : FuncType} :
    m.blockType t = .ok type ↔ m.BlockType t type := by
  constructor
  · intro h
    unfold blockType at h
    split at h
    case h_1 hk =>
      obtain rfl : t = -64 := Int32.toInt_inj.mp hk
      cases h
      exact .empty
    case h_2 hk =>
      obtain rfl : t = -1 := Int32.toInt_inj.mp hk
      cases h
      exact .i32
    case h_3 hk =>
      obtain rfl : t = -2 := Int32.toInt_inj.mp hk
      cases h
      exact .i64
    case h_4 hk =>
      obtain rfl : t = -3 := Int32.toInt_inj.mp hk
      cases h
      exact .f32
    case h_5 hk =>
      obtain rfl : t = -4 := Int32.toInt_inj.mp hk
      cases h
      exact .f64
    case h_6 hk =>
      split at h
      · rename_i hi
        cases h
        exact .index hk hi
      · cases h
    case h_7 => cases h
  · intro h
    cases h with
    | index ht hi =>
      unfold blockType
      rw [ht]
      simp only [hi]
    | _ => rfl

/-- An opcode in a range is one of a list that has all of the range. -/
theorem Op.mem_of_range {op lo hi : UInt8} {ops : List UInt8} (h : lo ≤ op ∧ op ≤ hi)
    (hops : (List.range' lo.toNat (hi.toNat + 1 - lo.toNat)).all (UInt8.ofNat · ∈ ops)) :
    op ∈ ops := by
  have hmem : op.toNat ∈ List.range' lo.toNat (hi.toNat + 1 - lo.toNat) := by
    rw [UInt8.le_iff_toNat_le, UInt8.le_iff_toNat_le] at h
    rw [List.mem_range'_1]
    omega
  have hop := of_decide_eq_true (List.all_eq_true.mp hops op.toNat hmem)
  rwa [UInt8.ofNat_toNat] at hop

theorem Op.numeric_of_numericType? {op : UInt8} {type : FuncType}
    (h : numericType? op = some type) : Op.Numeric op type := by
  unfold numericType? at h
  simp only at h
  split at h
  · subst op
    cases h
    exact .i32Unary (by decide)
  split at h
  · rename_i ho
    cases h
    exact .i32Binary (Op.mem_of_range ho rfl)
  split at h
  · subst op
    cases h
    exact .i64ToI32 (by decide)
  split at h
  · rename_i ho
    cases h
    rcases ho with rfl | rfl <;> exact .i64Compare (by decide)
  split at h
  · rename_i ho
    cases h
    exact .i32Unary (Op.mem_of_range ho rfl)
  split at h
  · rename_i ho
    cases h
    exact .i32Binary (Op.mem_of_range ho rfl)
  split at h
  · rename_i ho
    cases h
    exact .i64Binary (Op.mem_of_range ho rfl)
  split at h
  · subst op
    cases h
    exact .i64ToI32 (by decide)
  split at h
  · rename_i ho
    cases h
    rcases ho with rfl | rfl <;> exact .i64Extend (by decide)
  split at h
  · rename_i ho
    cases h
    rcases ho with rfl | rfl <;> exact .i32Unary (by decide)
  · cases h

/-- The checker finds the type of a numeric instruction in its own table. -/
theorem Op.Numeric.numericType? {op : UInt8} {type : FuncType} (h : Op.Numeric op type) :
    Wasm.numericType? op = some type := by
  have hall {ops : List UInt8} (hops : ops.all (Wasm.numericType? · = some type))
      (hop : op ∈ ops) : Wasm.numericType? op = some type :=
    of_decide_eq_true (List.all_eq_true.mp hops op hop)
  cases h with
  | i32Unary h | i32Binary h | i64ToI32 h | i64Compare h | i64Binary h | i64Extend h =>
    exact hall rfl h

theorem Op.loads_or_stores_of_access? {op : UInt8} {acc : Access} (h : access? op = some acc) :
    acc.isStore = false ∧ Op.Loads op acc.value (2 ^ acc.naturalAlign.toNat) ∨
      acc.isStore = true ∧ Op.Stores op acc.value (2 ^ acc.naturalAlign.toNat) := by
  unfold access? at h
  split at h <;> cases h
  all_goals first
    | exact .inl ⟨rfl, by constructor⟩
    | exact .inr ⟨rfl, by constructor⟩

theorem Op.Loads.access? {op : UInt8} {t : ValueType} {bytes : Nat} (h : Op.Loads op t bytes) :
    ∃ align : UInt32, Wasm.access? op = some ⟨t, align, false⟩ ∧ bytes = 2 ^ align.toNat := by
  cases h <;> exact ⟨_, rfl, rfl⟩

theorem Op.Stores.access? {op : UInt8} {t : ValueType} {bytes : Nat} (h : Op.Stores op t bytes) :
    ∃ align : UInt32, Wasm.access? op = some ⟨t, align, true⟩ ∧ bytes = 2 ^ align.toNat := by
  cases h <;> exact ⟨_, rfl, rfl⟩

/-- The opcodes that take an immediate of a shape. -/
def Shape.Takes (op : UInt8) : Shape → Prop
  | .bare => op ∈ [Op.unreachable, Op.nop, Op.otherwise, Op.stop, Op.ret, Op.drop, Op.select] ∨
      ∃ type, numericType? op = some type
  | .block => op ∈ [Op.block, Op.loop, Op.ifThen]
  | .branch => op ∈ [Op.br, Op.brIf]
  | .table => op = Op.brTable
  | .call => op = Op.call
  | .localVar => op ∈ [Op.localGet, Op.localSet, Op.localTee]
  | .globalVar => op ∈ [Op.globalGet, Op.globalSet]
  | .memory => ∃ acc, access? op = some acc
  | .memoryIndex => op ∈ [Op.memorySize, Op.memoryGrow]
  | .i32 => op = Op.i32Const
  | .i64 => op = Op.i64Const

theorem Shape.takes_of_shape? {op : UInt8} {shape : Shape} (h : shape? op = some shape) :
    shape.Takes op := by
  unfold shape? at h
  split at h
  case h_24 =>
    split at h
    · rename_i hacc
      cases h
      exact Option.isSome_iff_exists.mp hacc
    · split at h
      · rename_i htype
        cases h
        exact .inr (Option.isSome_iff_exists.mp htype)
      · cases h
  all_goals
    cases h
    simp [Takes]

end TapeWasm.Wasm
