import TapeWasm.Wasm.Machine.Memory

/-!
Where a running program keeps its things in memory: an output buffer, a descriptor for reads and
writes with a word for the count of bytes moved, and the tape from there to the end of memory, whose
cells can be read back.
-/
namespace TapeWasm

/-- Addresses and sizes in bytes, the size of the memory in pages. -/
structure Layout where
  outputStart : UInt32
  outputSize : UInt32
  descriptor : UInt32
  countAddr : UInt32
  tapeStart : UInt32
  cellBytes : UInt32
  pages : UInt32
  deriving DecidableEq, Repr

namespace Layout

/-- The layout of every generated program. -/
def standard : Layout where
  outputStart := 0
  outputSize := 1000
  descriptor := 1008
  countAddr := 1016
  tapeStart := 1024
  cellBytes := 4
  pages := 3

/-- The address of a cell, in 32 bits. -/
def cellAddress (l : Layout) (i : Int) : UInt32 :=
  l.tapeStart + UInt32.ofNat (i % UInt32.size).toNat * l.cellBytes

/-- The number of whole cells between the start of the tape and the end of memory. -/
def cells (l : Layout) : Nat :=
  ((l.pages * 65536 - l.tapeStart) / l.cellBytes).toNat

end Layout

/-- The cells from cell `i` on, at most `n`, up to the first that does not lie in the memory. -/
def cellsFrom (m : Wasm.Memory) : Nat → Nat → List UInt32 → List UInt32
  | 0, _, acc => acc.reverse
  | n + 1, i, acc =>
    match m.word? (Layout.standard.cellAddress i).toNat with
    | some v => cellsFrom m n (i + 1) (v :: acc)
    | none => acc.reverse

/-- The first `n` cells of the tape, or as many as there are. -/
def leadingCells (m : Wasm.Memory) (n : Int) : List UInt32 :=
  cellsFrom m (min n.toNat Layout.standard.cells) 0 []

end TapeWasm
