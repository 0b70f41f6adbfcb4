import TapeWasm.Wasm.Machine.Memory
import TapeWasm.Wasm.Module

/-!
The host's calls that move bytes between memory and the two streams. A descriptor in memory is an
address and a length; the number of bytes moved is stored where the caller asks. A call that cannot
do its work answers with a number and no trap.
-/
namespace TapeWasm.Wasm

/-- Memory and streams: what is left of the input, and all output so far. -/
structure Store where
  memory : Memory
  input : Bytes
  output : Array UInt8
  deriving DecidableEq, Repr

namespace Errno
def success : UInt32 := 0
def badDescriptor : UInt32 := 8
def fault : UInt32 := 21
end Errno

namespace Store

def descriptors? (m : Memory) : Nat → Nat → Option (List (Nat × Nat))
  | 0, _ => some []
  | count + 1, a => do
    let start ← m.word? a
    let length ← m.word? (a + 4)
    let rest ← descriptors? m count (a + 8)
    return (start.toNat, length.toNat) :: rest

/-- Appends what the descriptors describe to the output, with the number of bytes. A descriptor
outside of the memory ends this. -/
def gather (s : Store) : List (Nat × Nat) → Nat → Store × Option Nat
  | [], moved => (s, some moved)
  | (a, n) :: ds, moved =>
    match s.memory.slice? a n with
    | none => (s, none)
    | some b => gather { s with output := s.output ++ b } ds (moved + n)

/-- Fills what the descriptors describe from the input, until one cannot be filled. -/
def scatter (s : Store) : List (Nat × Nat) → Nat → Store × Option Nat
  | [], moved => (s, some moved)
  | (a, n) :: ds, moved =>
    if a + n ≤ s.memory.size then
      let b := s.input.take n
      let s' := { s with memory := s.memory.fill a b, input := s.input.drop n }
      if b.length < n then (s', some (moved + b.length)) else scatter s' ds (moved + n)
    else (s, none)

def conclude : Store × Option Nat → Nat → Store × UInt32
  | (s, none), _ => (s, Errno.fault)
  | (s, some moved), a =>
    if a + 4 ≤ s.memory.size then
      ({ s with memory := s.memory.setWord a (UInt32.ofNat moved) }, Errno.success)
    else (s, Errno.fault)

/-- Runs a call with its four arguments: stream, descriptors, their number, and where the number of
bytes moved goes. -/
def call (s : Store) (c : HostCall) (stream descriptors count result : UInt32) :
    Store × UInt32 :=
  match c with
  | .read =>
    if stream = 0 then
      match descriptors? s.memory count.toNat descriptors.toNat with
      | some ds => conclude (s.scatter ds 0) result.toNat
      | none => (s, Errno.fault)
    else (s, Errno.badDescriptor)
  | .write =>
    if stream = 1 then
      match descriptors? s.memory count.toNat descriptors.toNat with
      | some ds => conclude (s.gather ds 0) result.toNat
      | none => (s, Errno.fault)
    else (s, Errno.badDescriptor)

end Store
end TapeWasm.Wasm
