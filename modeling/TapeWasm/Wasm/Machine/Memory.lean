import TapeWasm.Bytes

/-!
Linear memory. A read that does not lie inside the memory as a whole is refused; a write changes
what it reaches, and those who write look at the size first.
-/
namespace TapeWasm.Wasm

structure Memory where
  bytes : Array UInt8
  deriving DecidableEq, Repr

namespace Memory

def size (m : Memory) : Nat :=
  m.bytes.size

def zeroed (n : Nat) : Memory :=
  ⟨Array.replicate n 0⟩

/-- The byte at an address, zero outside of the memory. -/
def at_ (m : Memory) (a : Nat) : UInt8 :=
  m.bytes.getD a 0

def byte? (m : Memory) (a : Nat) : Option UInt8 :=
  m.bytes[a]?

/-- The word at an address, lowest byte first. -/
def word? (m : Memory) (a : Nat) : Option UInt32 :=
  if a + 4 ≤ m.size then
    some (Bytes.word (m.at_ a) (m.at_ (a + 1)) (m.at_ (a + 2)) (m.at_ (a + 3)))
  else none

def slice? (m : Memory) (a n : Nat) : Option (Array UInt8) :=
  if a + n ≤ m.size then some (m.bytes.extract a (a + n)) else none

/-- Writes bytes from an address on, as far as the memory goes. -/
def fill : Memory → Nat → Bytes → Memory
  | m, _, [] => m
  | m, a, b :: r => fill ⟨m.bytes.setIfInBounds a b⟩ (a + 1) r

def setByte (m : Memory) (a : Nat) (b : UInt8) : Memory :=
  ⟨m.bytes.setIfInBounds a b⟩

def setWord (m : Memory) (a : Nat) (w : UInt32) : Memory :=
  m.fill a (Bytes.ofWord w)

def setBytes? (m : Memory) (a : Nat) (b : Bytes) : Option Memory :=
  if a + b.length ≤ m.size then some (m.fill a b) else none

/-! Reads for those who look into a memory after a run, with a text for those outside of it. -/

def readBytes (m : Memory) (offset length : UInt32) : Except String Bytes :=
  match m.slice? offset.toNat length.toNat with
  | some b => .ok b.toList
  | none =>
    .error ("read out of bounds: offset=" ++ toString offset.toNat ++ ", length=" ++
      toString length.toNat)

def readByte (m : Memory) (offset : UInt32) : Except String UInt8 :=
  match m.byte? offset.toNat with
  | some b => .ok b
  | none => .error ("read out of bounds: offset=" ++ toString offset.toNat)

def readWord (m : Memory) (offset : UInt32) : Except String UInt32 :=
  match m.word? offset.toNat with
  | some w => .ok w
  | none => .error ("read out of bounds: offset=" ++ toString offset.toNat)

@[simp] theorem size_zeroed (n : Nat) : (zeroed n).size = n := by
  simp [zeroed, size]

@[simp] theorem size_setByte (m : Memory) (a : Nat) (b : UInt8) :
    (m.setByte a b).size = m.size := by
  simp [setByte, size]

@[simp] theorem size_fill (m : Memory) (a : Nat) (b : Bytes) : (m.fill a b).size = m.size := by
  induction b generalizing m a with
  | nil => rfl
  | cons x r ih => rw [fill, ih]; simp [size]

@[simp] theorem size_setWord (m : Memory) (a : Nat) (w : UInt32) :
    (m.setWord a w).size = m.size := by
  simp [setWord]

end Memory
end TapeWasm.Wasm
