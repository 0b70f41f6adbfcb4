import TapeWasm.Proofs.Codec.Varint
import TapeWasm.Proofs.Peephole.Rules

/-!
How many bytes condensed code takes. A constant may be written with the other sign and then takes
one byte more, so a rule can make code longer. The weight of a constant allows for both signs; no
rule adds to the weight, which is at most twice the number of bytes.
-/
namespace TapeWasm.Peephole

open Wasm

/-- The bytes that a constant takes with one sign or the other. -/
def signedBytes (k : Int32) : Nat :=
  max (Varint.encodeS32 k).length (Varint.encodeS32 (-k)).length

def weight (i : Instr) : Nat :=
  match i.imm with
  | .i32 k => 1 + signedBytes k
  | _ => i.encode.length

def totalWeight (is : List Instr) : Nat :=
  (is.map weight).sum

@[simp] theorem totalWeight_nil : totalWeight [] = 0 := rfl

@[simp] theorem totalWeight_cons (i : Instr) (is : List Instr) :
    totalWeight (i :: is) = weight i + totalWeight is := rfl

@[simp] theorem totalWeight_append (is js : List Instr) :
    totalWeight (is ++ js) = totalWeight is + totalWeight js := by
  simp [totalWeight]

theorem signedBytes_neg (k : Int32) : signedBytes (-k) = signedBytes k := by
  rw [signedBytes, signedBytes, Int32.neg_neg, Nat.max_comm]

theorem signedBytes_le (k : Int32) : signedBytes k ≤ 5 :=
  Nat.max_le.mpr ⟨Varint.length_encodeS32_le k, Varint.length_encodeS32_le (-k)⟩

theorem signedBytes_pos (k : Int32) : 0 < signedBytes k := by
  have hpos := List.length_pos_iff.mpr (Varint.encodeS32_ne_nil k)
  exact Nat.lt_of_lt_of_le hpos (Nat.le_max_left _ _)

theorem toInt_neg_cases (k : Int32) : (-k).toInt = -k.toInt ∨ (-k).toInt = k.toInt := by
  have hlow := k.le_toInt
  have hhigh := k.toInt_lt
  rw [Int32.toInt_neg, Int.bmod_def]
  split <;> omega

/-- The other sign takes at most one byte more. -/
theorem length_encodeS32_neg_le (k : Int32) :
    (Varint.encodeS32 (-k)).length ≤ (Varint.encodeS32 k).length + 1 := by
  have hpos := List.length_pos_iff.mpr (Varint.encodeS32_ne_nil k)
  obtain ⟨j, hj⟩ : ∃ j, (Varint.encodeS32 k).length = j + 1 :=
    ⟨(Varint.encodeS32 k).length - 1, by omega⟩
  obtain ⟨hlow, hhigh⟩ := (Varint.length_encodeInt_le_iff k.toInt j).mp (Varint.encodeS32_eq k ▸ hj.le)
  have hpow : (0 : Int) < 128 ^ j := by positivity
  rw [hj, Varint.encodeS32_eq, Varint.length_encodeInt_le_iff, pow_succ]
  rcases toInt_neg_cases k with h | h <;> omega

theorem length_encode_le_weight (i : Instr) : i.encode.length ≤ weight i := by
  obtain ⟨op, imm⟩ := i
  cases imm with
  | i32 k =>
    simp only [weight, Instr.encode, Immediate.encode, List.length_cons, signedBytes]
    omega
  | _ => exact Nat.le_refl _

theorem weight_le (i : Instr) : weight i ≤ 2 * i.encode.length := by
  obtain ⟨op, imm⟩ := i
  cases imm with
  | i32 k =>
    have hneg := length_encodeS32_neg_le k
    simp only [weight, Instr.encode, Immediate.encode, List.length_cons, signedBytes]
    omega
  | _ => exact Nat.le_mul_of_pos_left _ (by decide)

/-- A move or change weighs the same for either operation. -/
theorem Moves.weight_eq {op : UInt8} {k d : Int32} (h : Moves op k d) :
    weight ⟨op, .none⟩ = 1 ∧ weight ⟨Op.i32Const, .i32 k⟩ = 1 + signedBytes d := by
  cases h with
  | add => exact ⟨rfl, rfl⟩
  | sub => exact ⟨rfl, congrArg (1 + ·) (signedBytes_neg k).symm⟩

theorem totalWeight_moveCode {op : UInt8} {k d : Int32} (h : Moves op k d) (v : UInt32) :
    totalWeight (moveCode v op k) =
      weight ⟨Op.localGet, .localVar v⟩ + weight ⟨Op.localSet, .localVar v⟩ + 2 +
        signedBytes d := by
  simp only [moveCode, totalWeight_cons, totalWeight_nil, h.weight_eq.1,
    h.weight_eq.2]
  omega

theorem totalWeight_changeCode {op : UInt8} {k d : Int32} (h : Moves op k d) (v : UInt32)
    (arg : MemArg) :
    totalWeight (changeCode v arg op k) =
      2 * weight ⟨Op.localGet, .localVar v⟩ + weight ⟨Op.i32Load, .memory arg⟩ +
        weight ⟨Op.i32Store, .memory arg⟩ + 2 + signedBytes d := by
  simp only [changeCode, totalWeight_cons, totalWeight_nil, h.weight_eq.1,
    h.weight_eq.2]
  omega

theorem weight_pos (i : Instr) : 0 < weight i :=
  Nat.lt_of_lt_of_le (by simp [Instr.encode]) (length_encode_le_weight i)

/-- No rule adds weight. -/
theorem Rule.totalWeight_le {a b : List Instr} (h : Rule a b) : totalWeight b ≤ totalWeight a := by
  have hmove (v : UInt32) (d : Int32) := totalWeight_moveCode (moves_stepBy d) v
  have hchange (v : UInt32) (arg : MemArg) (d : Int32) :=
    totalWeight_changeCode (moves_stepBy d) v arg
  cases h with
  | @move v op k d h => rw [code_move, hmove, totalWeight_moveCode h]
  | @change v arg op k d h => rw [code_change, hchange, totalWeight_changeCode h]
  | addMoves v d e =>
    have hget := weight_pos ⟨Op.localGet, .localVar v⟩
    have hset := weight_pos ⟨Op.localSet, .localVar v⟩
    have hsum := signedBytes_le (e + d)
    have hd := signedBytes_pos d
    have he := signedBytes_pos e
    simp only [totalWeight_append, code_move, hmove]
    omega
  | addChanges v arg d e =>
    have hget := weight_pos ⟨Op.localGet, .localVar v⟩
    have hsum := signedBytes_le (e + d)
    have hd := signedBytes_pos d
    have he := signedBytes_pos e
    simp only [totalWeight_append, code_change, hchange]
    omega
  | idleMove | idleChange => exact Nat.zero_le _
  | @clear v arg d _ =>
    have hzero := signedBytes_le 0
    have hget := weight_pos ⟨Op.localGet, .localVar v⟩
    have hload := weight_pos ⟨Op.i32Load, .memory arg⟩
    have hd := signedBytes_pos d
    have hclear : totalWeight (Group.clear v arg).code =
        weight ⟨Op.localGet, .localVar v⟩ + (1 + signedBytes 0 +
          weight ⟨Op.i32Store, .memory arg⟩) := rfl
    simp only [hclear, clearLoop, clearHead, totalWeight_append, code_change, hchange,
      totalWeight_cons, totalWeight_nil]
    omega

theorem Reduces.totalWeight_le {a b : List Instr} (h : Reduces a b) :
    totalWeight b ≤ totalWeight a := by
  induction h with
  | refl => exact Nat.le_refl _
  | tail _ hstep ih =>
    cases hstep with
    | at_ before after h =>
      have hrule := h.totalWeight_le
      simp only [totalWeight_append] at ih ⊢
      omega

theorem length_encodeAll_le (is : List Instr) : (Instr.encodeAll is).length ≤ totalWeight is := by
  induction is with
  | nil => exact Nat.le_refl _
  | cons i is ih =>
    have hi := length_encode_le_weight i
    simp only [Instr.encodeAll_cons, List.length_append, totalWeight_cons]
    omega

theorem totalWeight_le (is : List Instr) : totalWeight is ≤ 2 * (Instr.encodeAll is).length := by
  induction is with
  | nil => exact Nat.le_refl _
  | cons i is ih =>
    have hi := weight_le i
    simp only [Instr.encodeAll_cons, List.length_append, totalWeight_cons]
    omega

/-- Condensed code takes at most twice as many bytes. -/
theorem length_encodeAll_condense {code : List Instr} (hw : ∀ i ∈ code, i.WellShaped) :
    (Instr.encodeAll (condense code)).length ≤ 2 * (Instr.encodeAll code).length :=
  calc (Instr.encodeAll (condense code)).length
      ≤ totalWeight (condense code) := length_encodeAll_le _
    _ ≤ totalWeight code := (reduces_condense hw).totalWeight_le
    _ ≤ 2 * (Instr.encodeAll code).length := totalWeight_le code

end TapeWasm.Peephole
