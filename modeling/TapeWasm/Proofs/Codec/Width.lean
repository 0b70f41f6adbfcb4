import Mathlib.Data.Int.ModEq
import TapeWasm.Proofs.Codec.Varint

/-!
Numbers that do not fit their width. The bytes of a number in variable length have a value of any
size. The readers limit how many bytes there may be and not the value, so that what they return is
the value up to a multiple of `2 ^ bits`: the value itself exactly if it fits. Bits of the last byte
that do not fit are dropped without a fault.
-/
namespace TapeWasm.Wasm.Varint

/-- The number is one of the `2 ^ bits` numbers from the least one on. -/
def InRange (least : Int) (bits : Nat) (n : Int) : Prop :=
  least ≤ n ∧ n < least + 2 ^ bits

/-- What a reader of numbers of a width does with a byte string. It takes the numbers of few enough
bytes and refuses the others. What it returns is the value of the bytes taken up to a multiple of
`2 ^ bits`, and the value itself exactly if it fits, as it does with fewer bytes than allowed. -/
structure ReadsWithin {α : Type} (read : Bytes → Except (Stop × Bytes) (Taken α)) (toInt : α → Int)
    (value : Bytes → Int) (least : Int) (bits : Nat) (b : Bytes) : Prop where
  returned {t : Taken α} (h : read b = .ok t) :
    ∃ v, IsVarint v ∧ b = v ++ t.rest ∧ v.length = t.used ∧
      toInt t.value ≡ value v [ZMOD 2 ^ bits] ∧
      (toInt t.value = value v ↔ InRange least bits (value v)) ∧
      (t.used < byteLimit bits → toInt t.value = value v)
  taken {v rest : Bytes} (hv : IsVarint v) (hb : b = v ++ rest) (h : v.length ≤ byteLimit bits) :
    ∃ n, read b = .ok ⟨n, v.length, rest⟩
  refused {v rest : Bytes} (hv : IsVarint v) (hb : b = v ++ rest) (h : byteLimit bits < v.length) :
    read b = .error (.tooLong, b.drop (byteLimit bits))

/-! Values of fewer bytes than allowed fit. -/

theorem payload_inRange {v : Bytes} {bits : Nat} (h : v.length < byteLimit bits) :
    InRange 0 bits (payload v) := by
  have hbits : 7 * v.length ≤ bits := by
    unfold byteLimit at h
    omega
  have hpow : payload v < 2 ^ bits := calc
    payload v < 128 ^ v.length := payload_lt v
    _ = 2 ^ (7 * v.length) := (pow_mul 2 7 v.length).symm
    _ ≤ 2 ^ bits := Nat.pow_le_pow_right (by decide) hbits
  refine ⟨Int.natCast_nonneg _, ?_⟩
  rw [zero_add]
  exact_mod_cast hpow

theorem extended_inRange {v : Bytes} {bits : Nat} (hv : IsVarint v)
    (h : v.length < byteLimit bits) : InRange (-2 ^ (bits - 1)) bits (extended v) := by
  have hlen : 0 < v.length := List.length_pos_iff.mpr hv.ne_nil
  have hbits : 7 * (v.length - 1) + 6 ≤ bits - 1 := by
    unfold byteLimit at h
    omega
  have hpow : (64 * 128 ^ (v.length - 1) : Int) ≤ 2 ^ (bits - 1) := calc
    (64 * 128 ^ (v.length - 1) : Int) = 2 ^ (7 * (v.length - 1) + 6) := by
      rw [pow_add, pow_mul]
      norm_num
      ring
    _ ≤ 2 ^ (bits - 1) := pow_le_pow_right₀ (by decide) hbits
  have hdouble : (2 : Int) ^ bits = 2 * 2 ^ (bits - 1) := by
    rw [← pow_succ']
    congr 1
    omega
  obtain ⟨hlo, hhi⟩ := extended_bounds hv
  unfold InRange
  omega

/-! What the readers return. -/

/-- Two numbers of one range that differ by a multiple of its size are the same. -/
theorem InRange.eq_of_modEq {least a b : Int} {bits : Nat} (ha : InRange least bits a)
    (hb : InRange least bits b) (h : a ≡ b [ZMOD 2 ^ bits]) : a = b := by
  obtain ⟨halo, hahi⟩ := ha
  obtain ⟨hblo, hbhi⟩ := hb
  have hzero : b - a = 0 := Int.eq_zero_of_abs_lt_dvd h.dvd (abs_lt.mpr ⟨by omega, by omega⟩)
  omega

/-- A reader that turns the bytes of a number into a word and loses nothing but multiples of its
range. -/
theorem ReadsWithin.of_number {α : Type} {read : Bytes → Except (Stop × Bytes) (Taken α)}
    {toInt : α → Int} {value : Bytes → Int} {least : Int} {bits : Nat} {f : Bytes → α}
    (hread : ∀ b, read b =
      (number (byteLimit bits) b).map fun p => ⟨f p.1, p.1.length, p.2⟩)
    (hrange : ∀ n, InRange least bits (toInt n))
    (hvalue : ∀ {v}, IsVarint v → toInt (f v) ≡ value v [ZMOD 2 ^ bits])
    (hfits : ∀ {v}, IsVarint v → v.length < byteLimit bits → InRange least bits (value v))
    (b : Bytes) : ReadsWithin read toInt value least bits b where
  returned {t} h := by
    obtain ⟨v, hv, hb, -, hused, hword⟩ := exists_isVarint_of_map_number (hread b ▸ h)
    have hexact : toInt (f v) = value v ↔ InRange least bits (value v) := by
      constructor
      · intro heq
        rw [← heq]
        exact hrange _
      · intro hin
        exact (hrange _).eq_of_modEq hin (hvalue hv)
    refine ⟨v, hv, hb, hused.symm, hword ▸ hvalue hv, hword ▸ hexact, fun hless => ?_⟩
    -- Only the last byte allowed can have bits past the width.
    rw [hword]
    exact hexact.mpr (hfits hv (hused ▸ hless))
  taken {v rest} hv hb h := by
    refine ⟨f v, ?_⟩
    rw [hread, hb, number_of_isVarint hv h]
    rfl
  refused {v rest} hv hb h := by
    rw [hread, hb, number_of_long hv h]
    rfl

theorem takeU32_readsWithin (b : Bytes) :
    ReadsWithin takeU32 (fun n => n.toNat) (fun v => payload v) 0 32 b := by
  refine .of_number (f := fun v => UInt32.ofNat (payload v)) takeU32_eq ?_ ?_ ?_ b
  · intro n
    have := n.toNat_lt
    unfold InRange
    omega
  · intro v _
    rw [UInt32.toNat_ofNat']
    push_cast
    exact Int.mod_modEq _ _
  · intro v _ h
    exact payload_inRange h

theorem takeS64_readsWithin (b : Bytes) :
    ReadsWithin takeS64 Int64.toInt extended (-2 ^ 63) 64 b := by
  refine .of_number (f := fun v => Int64.ofInt (extended v)) (takeSigned_eq 64) ?_ ?_ ?_ b
  · intro n
    have := n.toInt_lt
    have := n.le_toInt
    unfold InRange
    omega
  · intro v _
    rw [Int64.toInt_ofInt]
    exact Int.bmod_emod
  · intro v hv h
    exact extended_inRange hv h

theorem takeS32_readsWithin (b : Bytes) :
    ReadsWithin takeS32 Int32.toInt extended (-2 ^ 31) 32 b := by
  refine .of_number (f := fun v => (Int64.ofInt (extended v)).toInt32) ?_ ?_ ?_ ?_ b
  · intro b
    unfold takeS32
    rw [takeSigned_eq]
    cases number (byteLimit 32) b <;> rfl
  · intro n
    have := n.toInt_lt
    have := n.le_toInt
    unfold InRange
    omega
  · intro v _
    rw [Int64.toInt_toInt32, Int64.toInt_ofInt, Int.bmod_bmod_of_dvd (by decide)]
    exact Int.bmod_emod
  · intro v hv h
    exact extended_inRange hv h

/-- On every byte string each reader returns the value of the number at the front if this fits the
width, and otherwise the value less a multiple of `2 ^ bits`; it refuses numbers of too many bytes. -/
theorem readers_reduce_to_width (b : Bytes) :
    ReadsWithin takeU32 (fun n => n.toNat) (fun v => payload v) 0 32 b ∧
      ReadsWithin takeS32 Int32.toInt extended (-2 ^ 31) 32 b ∧
      ReadsWithin takeS64 Int64.toInt extended (-2 ^ 63) 64 b :=
  ⟨takeU32_readsWithin b, takeS32_readsWithin b, takeS64_readsWithin b⟩

/-- The numbers `2 ^ 32` and `2 ^ 64` are past the widths and are read as zero. -/
theorem readers_accept_overflow :
    let v : Bytes := [0x80, 0x80, 0x80, 0x80, 0x10]
    let w : Bytes := [0x80, 0x80, 0x80, 0x80, 0x80, 0x80, 0x80, 0x80, 0x80, 0x02]
    IsVarint v ∧ payload v = 2 ^ 32 ∧ takeU32 v = .ok ⟨0, 5, []⟩ ∧
      extended v = 2 ^ 32 ∧ takeS32 v = .ok ⟨0, 5, []⟩ ∧
      IsVarint w ∧ extended w = 2 ^ 64 ∧ takeS64 w = .ok ⟨0, 10, []⟩ := by
  intro v w
  refine ⟨?_, by decide, rfl, by decide, rfl, ?_, by decide, rfl⟩
  · iterate 4 refine .more (by decide) ?_
    exact .last (by decide)
  · iterate 9 refine .more (by decide) ?_
    exact .last (by decide)

end TapeWasm.Wasm.Varint
