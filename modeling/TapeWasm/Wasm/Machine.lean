import TapeWasm.Wasm.Instr
import TapeWasm.Wasm.Machine.Transfer
import TapeWasm.Wasm.Value

/-!
The machine that runs function bodies, one instruction a step. It knows the instructions that
generated code is made of, with blocks that take and leave nothing, and `nop` and `unreachable`.
Control works on the flat list of instructions: a branch to a loop goes back to the list that its
label holds, any other branch goes on after the matching `end`. A block has operands of its own;
those of the block around it are out of reach until it ends.
-/
namespace TapeWasm.Wasm

/-- An open block: one that a branch leaves with so many operands, or a loop whose body a branch
starts again. Each keeps the operands `below`, of the block around it. -/
inductive Label where
  | forward (arity : Nat) (below : List Value)
  | back (below : List Value) (body : List Instr)
  deriving DecidableEq, Repr

def Label.below : Label → List Value
  | forward _ below => below
  | back below _ => below

/-- The operands in `stack` are those of the innermost block, topmost first. -/
structure Machine where
  code : List Instr
  labels : List Label
  stack : List Value
  locals : List Value
  store : Store
  deriving DecidableEq, Repr

inductive Trap where
  | outOfBounds
  | unreachable
  deriving DecidableEq, Repr

def Trap.message : Trap → String
  | outOfBounds => "out of bounds memory access"
  | unreachable => "unreachable"

/-- What a step leads to. A machine is stuck where the rules have nothing to say. -/
inductive Step where
  | next (m : Machine)
  | finished (m : Machine)
  | trapped (t : Trap) (m : Machine)
  | stuck (m : Machine)
  deriving DecidableEq, Repr

namespace Machine

/-- The code after the `end` that closes the block `depth` levels out. -/
def afterEnd : Nat → List Instr → Option (List Instr)
  | _, [] => none
  | depth, i :: is =>
    match i.op with
    | Op.block | Op.loop | Op.ifThen => afterEnd (depth + 1) is
    | Op.stop =>
      match depth with
      | 0 => some is
      | depth + 1 => afterEnd depth is
    | _ => afterEnd depth is

/-- Goes on in the block around one that has ended, or ends the function. -/
def resume (m : Machine) : Step :=
  match m.labels with
  | [] => .finished m
  | _ :: _ => .next m

def branch (m : Machine) (depth : Nat) : Step :=
  match m.labels.drop depth with
  | [] => .stuck m
  | .back below body :: outer =>
    .next { m with code := body, labels := .back below body :: outer, stack := [] }
  | .forward arity below :: outer =>
    match afterEnd depth m.code with
    | none => .stuck m
    | some code =>
      if m.stack.length < arity then .stuck m
      else resume { m with code, labels := outer, stack := m.stack.take arity ++ below }

def close (m : Machine) : Step :=
  match m.labels with
  | [] => .stuck m
  | l :: outer => resume { m with labels := outer, stack := m.stack ++ l.below }

def enter (m : Machine) (type : Int32) (label : List Value → Label) : Step :=
  if type = emptyType then .next { m with labels := label m.stack :: m.labels, stack := [] }
  else .stuck m

def skip (m : Machine) (type : Int32) : Step :=
  if type = emptyType then
    match afterEnd 0 m.code with
    | some code => .next { m with code }
    | none => .stuck m
  else .stuck m

def truth (b : Bool) : UInt32 :=
  if b then 1 else 0

def load (m : Machine) (arg : MemArg) : Step :=
  match m.stack with
  | .i32 base :: below =>
    match m.store.memory.word? (base.toNat + arg.offset.toNat) with
    | some v => .next { m with stack := .i32 v :: below }
    | none => .trapped .outOfBounds m
  | _ => .stuck m

def storeWord (m : Machine) (arg : MemArg) : Step :=
  match m with
  | ⟨code, labels, .i32 v :: .i32 base :: below, locals, ⟨memory, input, output⟩⟩ =>
    let a := base.toNat + arg.offset.toNat
    if a + 4 ≤ memory.size then
      .next ⟨code, labels, below, locals, ⟨memory.setWord a v, input, output⟩⟩
    else .trapped .outOfBounds m
  | m => .stuck m

def storeByte (m : Machine) (arg : MemArg) : Step :=
  match m with
  | ⟨code, labels, .i32 v :: .i32 base :: below, locals, ⟨memory, input, output⟩⟩ =>
    let a := base.toNat + arg.offset.toNat
    if a < memory.size then
      .next ⟨code, labels, below, locals, ⟨memory.setByte a v.toUInt8, input, output⟩⟩
    else .trapped .outOfBounds m
  | m => .stuck m

def unary (m : Machine) (f : UInt32 → UInt32) : Step :=
  match m.stack with
  | .i32 a :: below => .next { m with stack := .i32 (f a) :: below }
  | _ => .stuck m

def binary (m : Machine) (f : UInt32 → UInt32 → UInt32) : Step :=
  match m.stack with
  | .i32 b :: .i32 a :: below => .next { m with stack := .i32 (f a b) :: below }
  | _ => .stuck m

def getLocal (m : Machine) (i : UInt32) : Step :=
  match m.locals[i.toNat]? with
  | some v => .next { m with stack := v :: m.stack }
  | none => .stuck m

def setLocal (m : Machine) (i : UInt32) : Step :=
  match m.stack with
  | v :: below =>
    if i.toNat < m.locals.length then
      .next { m with stack := below, locals := m.locals.set i.toNat v }
    else .stuck m
  | _ => .stuck m

def callHost (m : Machine) (c : HostCall) : Step :=
  match m with
  | ⟨code, labels, .i32 result :: .i32 count :: .i32 descriptors :: .i32 stream :: below, locals,
      store⟩ =>
    let (store, errno) := store.call c stream descriptors count result
    .next ⟨code, labels, .i32 errno :: below, locals, store⟩
  | m => .stuck m

/-- Runs one instruction, `m` having the code after it. The host provides the functions in `host`,
by index. -/
def perform (host : List HostCall) (i : Instr) (m : Machine) : Step :=
  match i.op, i.imm with
  | Op.localGet, .localVar n => m.getLocal n
  | Op.localSet, .localVar n => m.setLocal n
  | Op.i32Const, .i32 v => .next { m with stack := .i32 v.toUInt32 :: m.stack }
  | Op.i32Load, .memory a => m.load a
  | Op.i32Store, .memory a => m.storeWord a
  | Op.i32Add, _ => m.binary (· + ·)
  | Op.i32Sub, _ => m.binary (· - ·)
  | Op.i32Eqz, _ => m.unary fun a => truth (a == 0)
  | Op.i32Eq, _ => m.binary fun a b => truth (a == b)
  | Op.i32Ne, _ => m.binary fun a b => truth (a != b)
  | Op.brIf, .branch l =>
    match m.stack with
    | .i32 c :: below =>
      let m := { m with stack := below }
      if c = 0 then .next m else m.branch l.toNat
    | _ => .stuck m
  | Op.block, .block t => m.enter t (.forward 0)
  | Op.loop, .block t => m.enter t fun below => .back below m.code
  | Op.ifThen, .block t =>
    match m.stack with
    | .i32 c :: below =>
      let m := { m with stack := below }
      if c = 0 then m.skip t else m.enter t (.forward 0)
    | _ => .stuck m
  | Op.stop, _ => m.close
  | Op.i32Store8, .memory a => m.storeByte a
  | Op.call, .call f =>
    match host[f.toNat]? with
    | some c => m.callHost c
    | none => .stuck m
  | Op.drop, _ =>
    match m.stack with
    | _ :: below => .next { m with stack := below }
    | _ => .stuck m
  | Op.nop, _ => .next m
  | Op.unreachable, _ => .trapped .unreachable m
  | _, _ => .stuck m

def step (host : List HostCall) (m : Machine) : Step :=
  match m with
  | ⟨[], _, _, _, _⟩ => .stuck m
  | ⟨i :: code, labels, stack, locals, store⟩ => perform host i ⟨code, labels, stack, locals, store⟩

inductive Outcome where
  | finished (m : Machine)
  | trapped (t : Trap) (m : Machine)
  | stuck (m : Machine)
  | unfinished (m : Machine)
  deriving DecidableEq, Repr

def run (host : List HostCall) : Nat → Machine → Outcome
  | 0, m => .unfinished m
  | fuel + 1, m =>
    match step host m with
    | .next m' => run host fuel m'
    | .finished m' => .finished m'
    | .trapped t m' => .trapped t m'
    | .stuck m' => .stuck m'

def start (code : List Instr) (arity : Nat) (locals : List Value) (store : Store) : Machine where
  code := code
  labels := [.forward arity []]
  stack := []
  locals := locals
  store := store

end Machine
end TapeWasm.Wasm
