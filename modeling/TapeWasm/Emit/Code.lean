import TapeWasm.Source.Program
import TapeWasm.Tape.Layout
import TapeWasm.Wasm.Instr

/-!
The code of a tape program. Four local variables hold the address of the current cell, the next free
byte of the output buffer, the end of the buffer, and the address of the descriptor. Output goes to
the buffer; a full buffer is written out, and so is what it holds at the end.
-/
namespace TapeWasm.Emit

open Wasm

namespace Var
def cell : UInt32 := 0
def cursor : UInt32 := 1
def bufferEnd : UInt32 := 2
def iovec : UInt32 := 3
def count : UInt32 := 4
end Var

namespace Func
def read : UInt32 := 0
def write : UInt32 := 1
def start : UInt32 := 2
end Func

def wordAccess (offset : UInt32) : MemArg := ⟨2, offset⟩

def const (v : UInt32) : Instr := ⟨Op.i32Const, .i32 v.toInt32⟩
def get (v : UInt32) : Instr := ⟨Op.localGet, .localVar v⟩
def set (v : UInt32) : Instr := ⟨Op.localSet, .localVar v⟩
def load : Instr := ⟨Op.i32Load, .memory (wordAccess 0)⟩
def store (offset : UInt32) : Instr := ⟨Op.i32Store, .memory (wordAccess offset)⟩
def storeByte : Instr := ⟨Op.i32Store8, .memory ⟨0, 0⟩⟩
def add : Instr := ⟨Op.i32Add, .none⟩
def sub : Instr := ⟨Op.i32Sub, .none⟩
def call (f : UInt32) : Instr := ⟨Op.call, .call f⟩
def drop : Instr := ⟨Op.drop, .none⟩
def stop : Instr := ⟨Op.stop, .none⟩
def branchIf (label : UInt32) : Instr := ⟨Op.brIf, .branch label⟩
def block : Instr := ⟨Op.block, .block emptyType⟩
def loop : Instr := ⟨Op.loop, .block emptyType⟩
def ifThen : Instr := ⟨Op.ifThen, .block emptyType⟩

def lengthOffset : UInt32 := 4

def stdin : UInt32 := 0
def stdout : UInt32 := 1

def layout : Layout := Layout.standard

def prologue : List Instr :=
  [const layout.tapeStart, set Var.cell,
   const layout.outputStart, set Var.cursor,
   const (layout.outputStart + layout.outputSize), set Var.bufferEnd,
   const layout.descriptor, set Var.iovec]

def readCell : List Instr :=
  [get Var.cell, load]

def moveBy (step : Instr) : List Instr :=
  [get Var.cell, const layout.cellBytes, step, set Var.cell]

def addToCell (step : Instr) : List Instr :=
  get Var.cell :: readCell ++ [const 1, step, store 0]

/-- A call that moves the bytes of the descriptor, its result unused. -/
def transfer (stream func : UInt32) : List Instr :=
  [const stream, get Var.iovec, const 1, const layout.countAddr, call func, drop]

def flush : List Instr :=
  [get Var.iovec, const layout.outputStart, store 0,
   get Var.iovec, get Var.cursor, const layout.outputStart, sub, store lengthOffset] ++
  transfer stdout Func.write ++
  [const layout.outputStart, set Var.cursor]

def output : List Instr :=
  get Var.cursor :: readCell ++
  [storeByte,
   get Var.cursor, const 1, add, set Var.cursor,
   get Var.cursor, get Var.bufferEnd, ⟨Op.i32Eq, .none⟩, ifThen] ++
  flush ++ [stop]

def input : List Instr :=
  [get Var.iovec, get Var.cell, store 0,
   get Var.iovec, const 1, store lengthOffset] ++
  transfer stdin Func.read

def openLoop : List Instr :=
  block :: readCell ++ [⟨Op.i32Eqz, .none⟩, branchIf 0, loop]

def closeLoop : List Instr :=
  readCell ++ [const 0, ⟨Op.i32Ne, .none⟩, branchIf 0, stop, stop]

def symbol : Symbol → List Instr
  | .left => moveBy sub
  | .right => moveBy add
  | .inc => addToCell add
  | .dec => addToCell sub
  | .output => output
  | .input => input
  | .opening => openLoop
  | .closing => closeLoop

def epilogue : List Instr :=
  flush ++ [stop]

/-- The code of a list of symbols; other bytes have none. -/
def symbols (bs : Bytes) : List Instr :=
  bs.flatMap fun b => ((Symbol.ofByte? b).map symbol).getD []

def program (bs : Bytes) : List Instr :=
  prologue ++ symbols bs ++ epilogue

end TapeWasm.Emit
