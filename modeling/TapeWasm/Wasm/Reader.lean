import TapeWasm.Wasm.DecodeFault
import TapeWasm.Wasm.Varint

/-!
Reading from the front of a byte string. A decoder takes the bytes left and their place, and gives a
value or a fault with what is left after it.
-/
namespace TapeWasm.Wasm

/-- The bytes not read yet and the number of bytes read. -/
structure Reader where
  rest : Bytes
  pos : Nat := 0
  deriving DecidableEq, Repr

abbrev Decoder := EStateM DecodeFault Reader

namespace Decoder

def fail (f : DecodeFault) : Decoder α :=
  fun r => .error f r

/-- Names the part of the module in which a decoder fails. -/
def within (context : DecodeContext) (d : Decoder α) : Decoder α :=
  fun r =>
    match d r with
    | .ok a r' => .ok a r'
    | .error f r' => .error (.within context f) r'

/-- Names the part and the place of the reader at which a decoder fails. -/
def framed (part : String) (d : Decoder α) : Decoder α :=
  fun r =>
    match d r with
    | .ok a r' => .ok a r'
    | .error f r' => .error (.within (.frame part r'.pos) f) r'

def remaining : Decoder Nat :=
  fun r => .ok r.rest.length r

def position : Decoder Nat :=
  fun r => .ok r.pos r

def byte : Decoder UInt8 :=
  fun r =>
    match r.rest with
    | [] => .error .ended r
    | b :: rest => .ok b ⟨rest, r.pos + 1⟩

def bytes (n : Nat) : Decoder Bytes :=
  fun r =>
    if n ≤ r.rest.length then .ok (r.rest.take n) ⟨r.rest.drop n, r.pos + n⟩
    else .error .cutShort r

def all : Decoder Bytes :=
  fun r => .ok r.rest ⟨[], r.pos + r.rest.length⟩

/-- Runs a reader of variable-length integers, with the fault for one that is too long. -/
def varint (read : Bytes → Except (Varint.Stop × Bytes) (Varint.Taken α))
    (tooLong : Nat → DecodeFault) : Decoder α :=
  fun r =>
    match read r.rest with
    | .ok t => .ok t.value ⟨t.rest, r.pos + t.used⟩
    | .error (why, rest) =>
      let r' : Reader := ⟨rest, r.pos + (r.rest.length - rest.length)⟩
      match why with
      | .ranOut => .error .ended r'
      | .tooLong => .error (tooLong r.pos) r'

def u32 : Decoder UInt32 :=
  varint Varint.takeU32 .overflowAt

/-- A signed number of at most so many bits, as it stands in 64. -/
def signed (bits : Nat) : Decoder Int64 :=
  varint (Varint.takeSigned bits) fun _ => .overflow

def s32 : Decoder Int32 :=
  varint Varint.takeS32 fun _ => .overflow

def s64 : Decoder Int64 :=
  varint Varint.takeS64 fun _ => .overflow

/-- A length and that many bytes of UTF-8. -/
def name : Decoder String := do
  let n ← u32
  let start ← position
  let b ← bytes n.toNat
  match Bytes.toString? b with
  | some s => return s
  | none => fail (.nameEncoding start)

/-- `count` items, the first of them numbered `i`, after those in `acc`, last first. -/
def itemsFrom (item : Nat → Decoder α) : Nat → Nat → List α → Reader →
    EStateM.Result DecodeFault Reader (List α)
  | 0, _, acc, r => .ok acc.reverse r
  | count + 1, i, acc, r =>
    match item i r with
    | .ok a r' => itemsFrom item count (i + 1) (a :: acc) r'
    | .error f r' => .error f r'

def items (item : Nat → Decoder α) (count : Nat) : Decoder (List α) :=
  itemsFrom item count 0 []

/-- A length and that many items. No vector can have more items than bytes are left. -/
def vector (item : Nat → Decoder α) : Decoder (List α) := do
  let count ← u32
  let left ← remaining
  if left < count.toNat then fail (.vectorLength count.toNat left)
  else items item count.toNat

def onBytes (d : Decoder α) (b : Bytes) : Decoder α :=
  fun r =>
    match d ⟨b, 0⟩ with
    | .ok a _ => .ok a r
    | .error f _ => .error f r

def run (d : Decoder α) (b : Bytes) : Except DecodeFault α :=
  match d ⟨b, 0⟩ with
  | .ok a _ => .ok a
  | .error f _ => .error f

end Decoder
end TapeWasm.Wasm
