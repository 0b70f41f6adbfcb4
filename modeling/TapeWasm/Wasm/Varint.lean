import TapeWasm.Bytes

/-!
Variable-length integers: seven bits a byte, lowest first, the top bit set on all bytes but the
last. Numbers are written in the fewest bytes. When read, only the number of bytes is limited: bits
beyond the width of the result are dropped.
-/
namespace TapeWasm.Wasm.Varint

def encodeU32 (v : UInt32) : Bytes :=
  if 0x80 ≤ v then (v.toUInt8 ||| 0x80) :: encodeU32 (v >>> 7)
  else [v.toUInt8]
termination_by v.toNat
decreasing_by
  rename_i h
  rw [UInt32.le_iff_toNat_le] at h
  have h128 : (0x80 : UInt32).toNat = 128 := rfl
  have h7 : (v >>> 7).toNat = v.toNat / 128 := by
    rw [UInt32.toNat_shiftRight]
    exact Nat.shiftRight_eq_div_pow v.toNat 7
  omega

/-- Shifting by seven bits keeps the sign. -/
theorem toInt_shiftRight_seven (v : Int64) : (v >>> 7).toInt = v.toInt / 128 := by
  have h7 : (7 : Int64).toBitVec.smod 64 = 7#64 := by decide
  rw [← Int64.toInt_toBitVec, Int64.toBitVec_shiftRight, h7, BitVec.sshiftRight_eq',
    BitVec.toInt_sshiftRight, Int64.toInt_toBitVec]
  exact Int.shiftRight_eq_div_pow v.toInt 7

/-- The number's last byte tells its sign by the second-highest bit, so that writing goes on until
the rest is that sign alone. -/
def encodeS64 (v : Int64) : Bytes :=
  let b := (v &&& 0x7f).toUInt64.toUInt8
  let rest := v >>> 7
  if (rest = 0 ∧ b &&& 0x40 = 0) ∨ (rest = -1 ∧ b &&& 0x40 ≠ 0) then [b]
  else (b ||| 0x80) :: encodeS64 rest
termination_by v.toInt.natAbs
decreasing_by
  rename_i h
  rw [toInt_shiftRight_seven]
  have h0 : v.toInt ≠ 0 := fun hv => by
    obtain rfl : v = 0 := Int64.toInt_inj.mp hv
    exact h (by decide)
  have h1 : v.toInt ≠ -1 := fun hv => by
    obtain rfl : v = -1 := Int64.toInt_inj.mp hv
    exact h (by decide)
  omega

/-- Numbers of 32 bits are written as they stand in 64. -/
def encodeS32 (v : Int32) : Bytes :=
  encodeS64 v.toInt64

/-- Reading ends without a number when the bytes run out, or when more bytes would have to follow
than the width allows. -/
inductive Stop where
  | ranOut
  | tooLong
  deriving DecidableEq, Repr

/-- A number read from the front of a byte string, with the number of its bytes and what follows. -/
structure Taken (α : Type) where
  value : α
  used : Nat
  rest : Bytes
  deriving DecidableEq, Repr

/-- The number whose bits below `shift` are those of `v` and whose other bits come from the bytes.
On a failure the bytes not looked at are left. -/
def takeU32From (v : UInt32) (shift : Nat) : Bytes → Except (Stop × Bytes) (Taken UInt32)
  | [] => .error (if shift < 35 then .ranOut else .tooLong, [])
  | b :: r =>
    if shift < 35 then
      let v := v ||| (b &&& 0x7f).toUInt32 <<< UInt32.ofNat shift
      if b &&& 0x80 = 0 then .ok ⟨v, shift / 7 + 1, r⟩ else takeU32From v (shift + 7) r
    else .error (.tooLong, b :: r)

def takeU32 (b : Bytes) : Except (Stop × Bytes) (Taken UInt32) :=
  takeU32From 0 0 b

/-- Shifting by the width or more leaves nothing. -/
def shiftLeft (v : Int64) (shift : Nat) : Int64 :=
  if shift < 64 then v <<< Int64.ofNat shift else 0

/-- The bytes that a number of so many bits may take. -/
def byteLimit (bits : Nat) : Nat :=
  (bits + 6) / 7

/-- As `takeU32From`, up to the bit `limit`. The second-highest bit of the last byte fills all bits
above it. -/
def takeSignedFrom (limit : Nat) (v : Int64) (shift : Nat) :
    Bytes → Except (Stop × Bytes) (Taken Int64)
  | [] => .error (if shift < limit then .ranOut else .tooLong, [])
  | b :: r =>
    if shift < limit then
      let v := v ||| shiftLeft (b &&& 0x7f).toUInt64.toInt64 shift
      let shift := shift + 7
      if b &&& 0x80 ≠ 0 then takeSignedFrom limit v shift r
      else if shift < 64 ∧ b &&& 0x40 ≠ 0 then .ok ⟨v ||| shiftLeft (-1) shift, shift / 7, r⟩
      else .ok ⟨v, shift / 7, r⟩
    else .error (.tooLong, b :: r)

/-- A signed number of up to `bits` bits, as it stands in 64. -/
def takeSigned (bits : Nat) (b : Bytes) : Except (Stop × Bytes) (Taken Int64) :=
  takeSignedFrom (byteLimit bits * 7) 0 0 b

def takeS32 (b : Bytes) : Except (Stop × Bytes) (Taken Int32) :=
  match takeSigned 32 b with
  | .ok t => .ok ⟨t.value.toInt32, t.used, t.rest⟩
  | .error e => .error e

def takeS64 (b : Bytes) : Except (Stop × Bytes) (Taken Int64) :=
  takeSigned 64 b

end TapeWasm.Wasm.Varint
