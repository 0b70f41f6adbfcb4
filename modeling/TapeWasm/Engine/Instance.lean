import TapeWasm.Interrupt
import TapeWasm.Wasm.Instr.Decode
import TapeWasm.Wasm.Machine
import TapeWasm.Wasm.Module
import TapeWasm.Wasm.Structure

/-!
Instances of modules, and their runs from the exported function `_start`.
-/
namespace TapeWasm

open Wasm

/-- What a module needs to run: the host's functions that it imports, and its memory. -/
structure Instance where
  host : List HostCall
  memory? : Option Memory
  deriving DecidableEq, Repr

namespace Instance

def hostCall (i : Import) : Except String HostCall :=
  if i.module ≠ HostCall.hostModule then
    .error ("module[" ++ i.module ++ "] not instantiated")
  else
    match i.desc, HostCall.ofName? i.name with
    | .func _, some c => .ok c
    | _, _ =>
      .error (Text.quote i.name ++ " is not exported in module " ++ Text.quote i.module)

def segmentStart (d : DataSegment) : Nat :=
  match Instr.decodeAll d.offset with
  | .ok [⟨_, .i32 v⟩, _] => v.toUInt32.toNat
  | _ => 0

def withData : Memory → List DataSegment → Nat → Except String Memory
  | m, [], _ => .ok m
  | m, d :: ds, n =>
    match m.setBytes? (segmentStart d) d.init with
    | some m' => withData m' ds (n + 1)
    | none => .error ("data[" ++ toString n ++ "]: out of bounds memory access")

def memoryOf (m : Module) : Except String (Option Memory) :=
  match m.memories with
  | [] => .ok none
  | l :: _ => do
    let memory ← withData (Memory.zeroed (l.min.toNat * pageSize)) m.data 0
    return some memory

def ofModule (m : Module) : Except String Instance := do
  let host ← m.imports.mapM hostCall
  let memory? ← memoryOf m
  return { host, memory? }

end Instance

/-- The function that a module is started with: its index, its type and its body. -/
structure Entry where
  index : Nat
  type : FuncType
  body : Body
  deriving DecidableEq, Repr

def Entry.ofModule? (m : Module) : Option Entry := do
  let e ← m.exportNamed? "_start"
  guard (e.kind = ExternKind.func)
  let t ← m.funcType? e.index
  let imported := m.importCount ExternKind.func
  guard (imported ≤ e.index.toNat)
  let b ← m.bodies[e.index.toNat - imported]?
  return ⟨e.index.toNat, t, b⟩

/-- How the call of an entry failed: what the runtime says of it, the code that the program has ended
itself with, if it has, and why the caller no longer waits, if that is so by then. -/
structure GuestFailure where
  why : String
  exitCode? : Option UInt32 := none
  stopped? : Option Interrupt := none
  deriving DecidableEq, Repr

/-- What the runtime makes of a run: how far it gets, and what was written once the entry is called. -/
inductive GuestRun where
  | noHost (why : String)
  | noInstance (why : String) (stopped? : Option Interrupt)
  | noEntry
  | called (output : Bytes) (failure? : Option GuestFailure) (memory? : Option Memory)

/-- The runtime closes what it runs when the caller no longer waits. -/
def GuestFailure.closedBy (i : Interrupt) : GuestFailure where
  why := "module closed with " ++ i.reason
  exitCode? := some (match i with
    | .canceled => 0xffffffff
    | .deadline => 0xefffffff)
  stopped? := some i

namespace Entry

/-- The machine at the start of a run, with all variables zero. -/
def machine (e : Entry) (i : Instance) (code : List Instr) (input : Bytes) : Machine :=
  Machine.start code e.type.results.length ((e.type.params ++ e.body.localTypes).map Value.zero)
    { memory := i.memory?.getD (Memory.zeroed 0), input, output := #[] }

def trapText (e : Entry) (what : String) : String :=
  "wasm error: " ++ what ++ "\nwasm stack trace:\n\t.$" ++ toString e.index ++ "()"

/-- Calls an entry for at most so many steps. -/
def call (e : Entry) (i : Instance) (steps : Nat) (input : Bytes) : GuestRun :=
  match Instr.decodeAll e.body.code with
  | .error f => .called [] (some { why := f.message }) none
  | .ok code =>
    match Machine.run i.host steps (e.machine i code input) with
    | .finished m => .called m.store.output.toList none (i.memory?.map fun _ => m.store.memory)
    | .trapped t m => .called m.store.output.toList (some { why := e.trapText t.message }) none
    | .stuck m =>
      .called m.store.output.toList (some { why := e.trapText "instruction not supported" }) none
    | .unfinished m => .called m.store.output.toList (some (.closedBy .deadline)) none

end Entry

/-- Runs a module from its entry. -/
def GuestRun.ofModule (m : Module) (a : Allowance) (input : Bytes) : GuestRun :=
  match Instance.ofModule m with
  | .error why => .noInstance why a.interrupt?
  | .ok i =>
    match Entry.ofModule? m with
    | none => .noEntry
    | some e =>
      match a with
      | .canceled => .called [] (some (.closedBy .canceled)) none
      | .steps 0 => .called [] (some (.closedBy .deadline)) none
      | .steps n =>
        if e.type.params ≠ [] then
          let why := "expected " ++ toString e.type.params.length ++ " params, but passed 0"
          .called [] (some { why }) none
        else e.call i n input

end TapeWasm
