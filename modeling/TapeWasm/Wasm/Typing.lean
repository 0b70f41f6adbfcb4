import TapeWasm.Wasm.Instr.Decode
import TapeWasm.Wasm.Module

/-!
Type checking of function bodies: one pass over the instructions, with a stack of operand types and
a stack of control frames. After a jump that is always taken the rest of a block is unreachable, and
there an empty stack gives operands of unknown type.
-/
namespace TapeWasm.Wasm

inductive TypingFault where
  | code (fault : DecodeFault)
  | untyped (func : Nat)
  | afterEnd (index : Nat) (instr : Instr)
  | unclosed (blocks : Nat)
  | underflow
  | mismatch (expected got : ValueType)
  | strayElse
  | oneArmed
  | branchDepth (depth : UInt32) (nesting : Nat)
  | tableArity (label : UInt32) (arity fallback : Nat)
  | unknownCallee (func : UInt32)
  | localRange (index : UInt32) (locals : Nat)
  | globalRange (index : UInt32)
  | immutable (index : UInt32)
  | memoryRange (index : UInt32) (memories : Nat)
  | alignment (claimed natural : UInt32)
  | blockType (type : Int32)
  | leftover (values : Nat)
  | unsupported (op : UInt8)
  | controlUnderflow
  | atInstr (index : Nat) (instr : Instr) (fault : TypingFault)
  | inFunction (func : Nat) (fault : TypingFault)
  deriving DecidableEq, Repr

def TypingFault.message : TypingFault → String
  | code f => f.message
  | untyped f => "function " ++ toString f ++ " has no type"
  | afterEnd i instr =>
    "instruction " ++ toString i ++ " (" ++ instr.text ++ ") after function end"
  | unclosed n => toString n ++ " unclosed blocks"
  | underflow => "operand stack underflow"
  | mismatch expected got =>
    "type mismatch: expected " ++ expected.name ++ ", got " ++ got.name
  | strayElse => "else without matching if"
  | oneArmed => "if without else must leave its parameters unchanged"
  | branchDepth d n =>
    "branch depth " ++ toString d.toNat ++ " exceeds nesting " ++ toString n
  | tableArity l a d =>
    "br_table label " ++ toString l.toNat ++ " arity " ++ toString a ++ ", default arity " ++
      toString d
  | unknownCallee f => "call to unknown function " ++ toString f.toNat
  | localRange i n =>
    "local index " ++ toString i.toNat ++ " out of range (" ++ toString n ++ " locals)"
  | globalRange i => "global index " ++ toString i.toNat ++ " out of range"
  | immutable i => "global " ++ toString i.toNat ++ " is immutable"
  | memoryRange i n =>
    "memory index " ++ toString i.toNat ++ " out of range (" ++ toString n ++ " memories)"
  | alignment a n =>
    "alignment 2^" ++ toString a.toNat ++ " exceeds natural alignment 2^" ++ toString n.toNat
  | blockType t => "invalid block type " ++ toString t.toInt
  | leftover n => toString n ++ " values left on stack at block end"
  | unsupported op => "unsupported opcode 0x" ++ Bytes.hexOf op
  | controlUnderflow => "control stack underflow"
  | atInstr i instr f =>
    "instruction " ++ toString i ++ " (" ++ instr.text ++ "): " ++ f.message
  | inFunction n f => "function " ++ toString n ++ ": " ++ f.message

/-- How an open block began; this decides what its label takes and what may close it. -/
inductive FrameKind where
  | block
  | loop
  | ifThen
  | otherwise
  deriving DecidableEq, Repr

/-- An open block: its type, the number of operands under it, and whether the code at hand can be
reached. -/
structure Frame where
  kind : FrameKind
  type : FuncType
  height : Nat
  isUnreachable : Bool := false
  deriving DecidableEq, Repr

/-- What a branch to the block has to leave on the stack: a loop starts again, any other block
ends. -/
def Frame.branchTypes (f : Frame) : List ValueType :=
  match f.kind with
  | .loop => f.type.params
  | _ => f.type.results

/-- Operand types and open blocks, both innermost first. -/
structure Checker where
  operands : List ValueType := []
  frames : List Frame := []
  deriving DecidableEq, Repr

/-- What the instructions of a body may refer to. -/
structure Scope where
  module : Module
  locals : List ValueType
  results : List ValueType

namespace Checker

def push (c : Checker) (t : ValueType) : Checker :=
  { c with operands := t :: c.operands }

/-- Pushes types so that the last one is on top. -/
def pushAll (c : Checker) (ts : List ValueType) : Checker :=
  { c with operands := ts.reverse ++ c.operands }

def pop (c : Checker) : Except TypingFault (ValueType × Checker) :=
  match c.frames with
  | [] => .error .controlUnderflow
  | f :: _ =>
    if c.operands.length = f.height then
      if f.isUnreachable then .ok (.unknown, c) else .error .underflow
    else
      match c.operands with
      | [] => .error .underflow
      | t :: ts => .ok (t, { c with operands := ts })

/-- Takes an operand of the wanted type; an unknown type fits any other. -/
def popType (c : Checker) (want : ValueType) : Except TypingFault (ValueType × Checker) := do
  let (got, c') ← c.pop
  if got ≠ want ∧ got ≠ .unknown ∧ want ≠ .unknown then .error (.mismatch want got)
  else return (got, c')

def expect (c : Checker) (want : ValueType) : Except TypingFault Checker := do
  let (_, c') ← c.popType want
  return c'

/-- Takes operands of the types given, the first type being the topmost. -/
def expectTop : List ValueType → Checker → Except TypingFault Checker
  | [], c => .ok c
  | t :: ts, c => do
    let c' ← c.expect t
    expectTop ts c'

/-- Takes operands of the types given, the last type being the topmost. -/
def expectAll (c : Checker) (ts : List ValueType) : Except TypingFault Checker :=
  expectTop ts.reverse c

/-- Opens a block, which has its parameters as operands. -/
def enter (c : Checker) (kind : FrameKind) (type : FuncType) : Checker :=
  pushAll { c with frames := ⟨kind, type, c.operands.length, false⟩ :: c.frames } type.params

/-- Closes the innermost block, which must have left its results and nothing else. -/
def leave (c : Checker) : Except TypingFault (Frame × Checker) :=
  match c.frames with
  | [] => .error .controlUnderflow
  | f :: outer => do
    let c' ← c.expectAll f.type.results
    if c'.operands.length = f.height then return (f, { c' with frames := outer })
    else .error (.leftover (c'.operands.length - f.height))

/-- Drops the operands of the innermost block, whose rest cannot be reached. -/
def abandon (c : Checker) : Checker :=
  match c.frames with
  | [] => c
  | f :: outer =>
    { operands := c.operands.drop (c.operands.length - f.height)
      frames := { f with isUnreachable := true } :: outer }

def label (c : Checker) (depth : UInt32) : Except TypingFault (List ValueType) :=
  match c.frames[depth.toNat]? with
  | some f => .ok f.branchTypes
  | none => .error (.branchDepth depth c.frames.length)

end Checker

/-- The type of a block: none, one value, or a function type by its index. -/
def Module.blockType (m : Module) (t : Int32) : Except TypingFault FuncType :=
  match t.toInt with
  | -64 => .ok {}
  | -1 => .ok { results := [.i32] }
  | -2 => .ok { results := [.i64] }
  | -3 => .ok { results := [.f32] }
  | -4 => .ok { results := [.f64] }
  | .ofNat i =>
    match m.types[i]? with
    | some ft => .ok ft
    | none => .error (.blockType t)
  | .negSucc _ => .error (.blockType t)

namespace Scope

open Checker

def needMemory (s : Scope) (i : UInt32) : Except TypingFault Unit :=
  if i.toNat < s.module.numMemories then .ok ()
  else .error (.memoryRange i s.module.numMemories)

def blockStart (s : Scope) (kind : FrameKind) (t : Int32) (c : Checker) :
    Except TypingFault Checker := do
  let type ← s.module.blockType t
  let c ← if kind = .ifThen then c.expect .i32 else .ok c
  let c ← c.expectAll type.params
  return c.enter kind type

/-- The labels of a branch table have to take as many operands as the fallback. -/
def tableLabels (c : Checker) (arity : Nat) : List UInt32 → Except TypingFault Unit
  | [] => .ok ()
  | l :: ls => do
    let types ← c.label l
    if types.length = arity then tableLabels c arity ls
    else .error (.tableArity l types.length arity)

def memoryStep (s : Scope) (arg : MemArg) (acc : Access) (c : Checker) :
    Except TypingFault Checker := do
  s.needMemory 0
  if acc.naturalAlign < arg.align then .error (.alignment arg.align acc.naturalAlign)
  else if acc.isStore then
    let c ← c.expect acc.value
    c.expect .i32
  else
    let c ← c.expect .i32
    return c.push acc.value

def localStep (s : Scope) (op : UInt8) (i : UInt32) (c : Checker) : Except TypingFault Checker :=
  match s.locals[i.toNat]? with
  | none => .error (.localRange i s.locals.length)
  | some t =>
    match op with
    | Op.localGet => .ok (c.push t)
    | Op.localSet => c.expect t
    | _ => do
      let c ← c.expect t
      return c.push t

def globalStep (s : Scope) (op : UInt8) (i : UInt32) (c : Checker) : Except TypingFault Checker :=
  match s.module.globalType? i with
  | none => .error (.globalRange i)
  | some g =>
    match op with
    | Op.globalGet => .ok (c.push g.value)
    | _ => if g.isMutable then c.expect g.value else .error (.immutable i)

def step (s : Scope) (i : Instr) (c : Checker) : Except TypingFault Checker :=
  match i.op, i.imm with
  | Op.unreachable, _ => .ok c.abandon
  | Op.nop, _ => .ok c
  | Op.block, .block t => s.blockStart .block t c
  | Op.loop, .block t => s.blockStart .loop t c
  | Op.ifThen, .block t => s.blockStart .ifThen t c
  | Op.otherwise, _ => do
    let (f, c) ← c.leave
    if f.kind = .ifThen then return c.enter .otherwise f.type else .error .strayElse
  | Op.stop, _ => do
    let (f, c) ← c.leave
    if f.kind = .ifThen ∧ f.type.params ≠ f.type.results then .error .oneArmed
    else return c.pushAll f.type.results
  | Op.br, .branch l => do
    let types ← c.label l
    let c ← c.expectAll types
    return c.abandon
  | Op.brIf, .branch l => do
    let c ← c.expect .i32
    let types ← c.label l
    let c ← c.expectAll types
    return c.pushAll types
  | Op.brTable, .table ls d => do
    let c ← c.expect .i32
    let types ← c.label d
    tableLabels c types.length ls
    let c ← c.expectAll types
    return c.abandon
  | Op.ret, _ => do
    let c ← c.expectAll s.results
    return c.abandon
  | Op.call, .call f =>
    match s.module.funcType? f with
    | none => .error (.unknownCallee f)
    | some type => do
      let c ← c.expectAll type.params
      return c.pushAll type.results
  | Op.drop, _ => do
    let (_, c) ← c.pop
    return c
  | Op.select, _ => do
    let c ← c.expect .i32
    let (t1, c) ← c.pop
    let (t2, c) ← c.popType t1
    return c.push (if t1 = .unknown then t2 else t1)
  | op, .localVar n => s.localStep op n c
  | op, .globalVar n => s.globalStep op n c
  | op, .memoryIndex n => do
    s.needMemory n
    let c ← if op = Op.memoryGrow then c.expect .i32 else .ok c
    return c.push .i32
  | _, .i32 _ => .ok (c.push .i32)
  | _, .i64 _ => .ok (c.push .i64)
  | op, imm =>
    match access? op, imm with
    | some acc, .memory arg => s.memoryStep arg acc c
    | _, _ =>
      match numericType? op with
      | some type => do
        let c ← c.expectAll type.params
        return c.pushAll type.results
      | none => .error (.unsupported op)

def stepsFrom (s : Scope) : List Instr → Nat → Checker → Except TypingFault Checker
  | [], _, c => .ok c
  | i :: is, n, c =>
    match c.frames with
    | [] => .error (.afterEnd n i)
    | _ :: _ =>
      match s.step i c with
      | .ok c' => stepsFrom s is (n + 1) c'
      | .error f => .error (.atInstr n i f)

/-- Checks the instructions of a body; they must close the function's own block. -/
def checkCode (s : Scope) (code : List Instr) : Except TypingFault Unit := do
  let c ← s.stepsFrom code 0 (Checker.enter {} .block { results := s.results })
  match c.frames with
  | [] => return
  | fs => .error (.unclosed fs.length)

end Scope

namespace Module

def checkBody (m : Module) (type : FuncType) (b : Body) : Except TypingFault Unit :=
  match Instr.decodeAll b.code with
  | .error f => .error (.code f)
  | .ok code => Scope.checkCode ⟨m, type.params ++ b.localTypes, type.results⟩ code

def checkBodiesFrom (m : Module) : List Body → Nat → Except TypingFault Unit
  | [], _ => .ok ()
  | b :: bs, n =>
    match m.funcType? (UInt32.ofNat n) with
    | none => .error (.untyped n)
    | some type =>
      match m.checkBody type b with
      | .ok () => m.checkBodiesFrom bs (n + 1)
      | .error f => .error (.inFunction n f)

def checkBodies (m : Module) : Except TypingFault Unit :=
  m.checkBodiesFrom m.bodies (m.importCount ExternKind.func)

end Module
end TapeWasm.Wasm
