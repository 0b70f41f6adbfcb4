import Mathlib.Tactic.GCongr
import Mathlib.Tactic.Positivity
import TapeWasm.Proofs.Codec.Groups

/-!
Numbers in variable length: what is written is read back, and no number takes more bytes than any
form it was read from.
-/
namespace TapeWasm.Wasm.Varint

private theorem toNat_ofNat_low {n : Nat} (h : n < 256) : (UInt8.ofNat n).toNat = n := by
  simpa using h

/-! What is written is the bytes of one number. -/

theorem isVarint_encodeNat (n : Nat) : IsVarint (encodeNat n) := by
  fun_induction encodeNat n with
  | case1 n hn => exact .last (by rw [toNat_ofNat_low] <;> omega)
  | case2 n hn ih => exact .more (by rw [toNat_ofNat_low] <;> omega) ih

theorem payload_encodeNat (n : Nat) : payload (encodeNat n) = n := by
  fun_induction encodeNat n with
  | case1 n hn =>
    rw [payload, payload, toNat_ofNat_low (by omega)]
    omega
  | case2 n hn ih =>
    rw [payload, ih, toNat_ofNat_low (by omega)]
    omega

theorem isVarint_encodeInt (v : Int) : IsVarint (encodeInt v) := by
  fun_induction encodeInt v with
  | case1 v low high hstop => exact .last (by rw [toNat_ofNat_low] <;> omega)
  | case2 v low high hgo ih => exact .more (by rw [toNat_ofNat_low] <;> omega) ih

theorem extended_encodeInt (v : Int) : extended (encodeInt v) = v := by
  fun_induction encodeInt v with
  | case1 v low high hstop =>
    rw [extended_singleton, toNat_ofNat_low (by omega)]
    split <;> omega
  | case2 v low high hgo ih =>
    rw [extended_cons _ (isVarint_encodeInt high).ne_nil, ih, toNat_ofNat_low (by omega)]
    omega

theorem encodeU32_ne_nil (v : UInt32) : encodeU32 v ≠ [] := by
  rw [encodeU32_eq]
  exact (isVarint_encodeNat _).ne_nil

theorem encodeS32_ne_nil (v : Int32) : encodeS32 v ≠ [] := by
  rw [encodeS32_eq]
  exact (isVarint_encodeInt _).ne_nil

theorem encodeS64_ne_nil (v : Int64) : encodeS64 v ≠ [] := by
  rw [encodeS64_eq]
  exact (isVarint_encodeInt _).ne_nil

/-! How many bytes numbers take. -/

theorem length_encodeNat_le_iff (n k : Nat) :
    (encodeNat n).length ≤ k + 1 ↔ n < 128 ^ (k + 1) := by
  induction k generalizing n with
  | zero =>
    rw [encodeNat]
    split
    case isTrue hn => simpa using hn
    case isFalse hn =>
      have := List.length_pos_iff.mpr (isVarint_encodeNat (n / 128)).ne_nil
      simp only [List.length_cons]
      omega
  | succ k ih =>
    rw [encodeNat, pow_succ]
    have hpos : 0 < 128 ^ (k + 1) := Nat.pow_pos (by decide)
    split
    case isTrue hn =>
      simp only [List.length_singleton]
      omega
    case isFalse hn =>
      simp only [List.length_cons, Nat.add_le_add_iff_right, ih]
      rw [Nat.div_lt_iff_lt_mul (by decide)]

theorem length_encodeInt_le_iff (v : Int) (k : Nat) :
    (encodeInt v).length ≤ k + 1 ↔ -(64 * 128 ^ k) ≤ v ∧ v < 64 * 128 ^ k := by
  induction k generalizing v with
  | zero =>
    rw [encodeInt]
    split
    case isTrue hstop =>
      simp only [List.length_singleton]
      omega
    case isFalse hgo =>
      have := List.length_pos_iff.mpr (isVarint_encodeInt (v / 128)).ne_nil
      simp only [List.length_cons]
      omega
  | succ k ih =>
    rw [encodeInt, pow_succ]
    have hpos : (0 : Int) < 128 ^ k := by positivity
    split
    case isTrue hstop =>
      simp only [List.length_singleton]
      omega
    case isFalse hgo =>
      simp only [List.length_cons, Nat.add_le_add_iff_right, ih]
      omega

theorem length_encodeU32_le (v : UInt32) : (encodeU32 v).length ≤ 5 := by
  rw [encodeU32_eq, length_encodeNat_le_iff]
  have := v.toNat_lt
  omega

theorem length_encodeS32_le (v : Int32) : (encodeS32 v).length ≤ 5 := by
  rw [encodeS32_eq, length_encodeInt_le_iff]
  have := v.toInt_lt
  have := v.le_toInt
  omega

theorem length_encodeS64_le (v : Int64) : (encodeS64 v).length ≤ 10 := by
  rw [encodeS64_eq, length_encodeInt_le_iff]
  have := v.toInt_lt
  have := v.le_toInt
  omega

/-! Reading back what was written. -/

@[simp] theorem takeU32_encodeU32 (v : UInt32) (rest : Bytes) :
    takeU32 (encodeU32 v ++ rest) = .ok ⟨v, (encodeU32 v).length, rest⟩ := by
  have hlen : (encodeU32 v).length ≤ byteLimit 32 := length_encodeU32_le v
  rw [encodeU32_eq] at hlen ⊢
  rw [takeU32_eq, number_of_isVarint (isVarint_encodeNat _) hlen]
  simp [Except.map, payload_encodeNat]

theorem takeSigned_encodeS64 (bits : Nat) (v : Int64) (rest : Bytes)
    (h : (encodeS64 v).length ≤ byteLimit bits) :
    takeSigned bits (encodeS64 v ++ rest) = .ok ⟨v, (encodeS64 v).length, rest⟩ := by
  rw [encodeS64_eq] at h ⊢
  rw [takeSigned_eq, number_of_isVarint (isVarint_encodeInt _) h]
  simp [Except.map, extended_encodeInt]

theorem takeS64_encodeS64 (v : Int64) (rest : Bytes) :
    takeS64 (encodeS64 v ++ rest) = .ok ⟨v, (encodeS64 v).length, rest⟩ :=
  takeSigned_encodeS64 64 v rest (length_encodeS64_le v)

theorem takeS32_encodeS32 (v : Int32) (rest : Bytes) :
    takeS32 (encodeS32 v ++ rest) = .ok ⟨v, (encodeS32 v).length, rest⟩ := by
  have h := takeSigned_encodeS64 32 v.toInt64 rest (length_encodeS32_le v)
  simp [takeS32, encodeS32, h]

/-! How large the values are. -/

theorem payload_lt (v : Bytes) : payload v < 128 ^ v.length := by
  induction v with
  | nil => simp [payload]
  | cons b r ih =>
    rw [payload, List.length_cons, pow_succ]
    omega

/-- With the sign, the payload has one bit less. -/
theorem extended_bounds {v : Bytes} (hv : IsVarint v) :
    -(64 * 128 ^ (v.length - 1)) ≤ extended v ∧ extended v < 64 * 128 ^ (v.length - 1) := by
  induction hv with
  | @last b hb =>
    rw [extended_singleton, List.length_singleton, Nat.sub_self, pow_zero]
    split <;> omega
  | @more b r hb hr ih =>
    obtain ⟨k, hk⟩ : ∃ k, r.length = k + 1 := Nat.exists_eq_succ_of_ne_zero (by simpa using hr.ne_nil)
    rw [extended_cons b hr.ne_nil]
    simp only [List.length_cons, hk, Nat.add_sub_cancel, pow_succ] at ih ⊢
    omega

/-! What was read is written in no more bytes. -/

theorem takeU32_ok {b : Bytes} {t : Taken UInt32} (h : takeU32 b = .ok t) :
    (encodeU32 t.value).length ≤ t.used ∧ b.length = t.used + t.rest.length := by
  rw [takeU32_eq] at h
  obtain ⟨v, hv, rfl, -, hused, hvalue⟩ :=
    exists_isVarint_of_map_number (f := fun v => UInt32.ofNat (payload v)) h
  obtain ⟨k, hk⟩ : ∃ k, v.length = k + 1 := Nat.exists_eq_succ_of_ne_zero (by simpa using hv.ne_nil)
  refine ⟨?_, hused ▸ List.length_append⟩
  rw [hused, hvalue, encodeU32_eq, hk, length_encodeNat_le_iff, ← hk]
  exact (Nat.mod_le _ _).trans_lt (payload_lt v)

theorem takeSigned_ok {bits : Nat} {b : Bytes} {t : Taken Int64} (h : takeSigned bits b = .ok t) :
    (encodeS64 t.value).length ≤ t.used ∧ t.used ≤ byteLimit bits ∧
      b.length = t.used + t.rest.length := by
  rw [takeSigned_eq] at h
  obtain ⟨v, hv, rfl, hlim, hused, hvalue⟩ :=
    exists_isVarint_of_map_number (f := fun v => Int64.ofInt (extended v)) h
  refine ⟨?_, hused ▸ hlim, hused ▸ List.length_append⟩
  rw [hused, hvalue]
  -- ten bytes may hold more than 64 bits, but no value takes more than ten
  by_cases hten : 10 ≤ v.length
  · exact (length_encodeS64_le _).trans hten
  · obtain ⟨k, hk⟩ : ∃ k, v.length = k + 1 :=
      Nat.exists_eq_succ_of_ne_zero (by simpa using hv.ne_nil)
    obtain ⟨hlo, hhi⟩ := extended_bounds hv
    have hpow : (128 : Int) ^ k ≤ 128 ^ 8 := by gcongr <;> omega
    rw [hk, Nat.add_sub_cancel] at hlo hhi
    rw [encodeS64_eq, hk, length_encodeInt_le_iff, Int64.toInt_ofInt_of_le (by omega) (by omega)]
    exact ⟨hlo, hhi⟩

theorem takeS32_ok {b : Bytes} {t : Taken Int32} (h : takeS32 b = .ok t) :
    (encodeS32 t.value).length ≤ t.used ∧ b.length = t.used + t.rest.length := by
  rw [takeS32] at h
  split at h
  · rename_i u hu
    obtain rfl := Except.ok.inj h
    obtain ⟨hle, hlim, hlen⟩ := takeSigned_ok hu
    refine ⟨?_, hlen⟩
    by_cases hk : 5 ≤ u.used
    · exact (length_encodeS32_le _).trans hk
    · obtain ⟨k, hk'⟩ : ∃ k, u.used = k + 1 :=
        ⟨u.used - 1, by have := List.length_pos_iff.mpr (encodeS64_ne_nil u.value); omega⟩
      have hpow : (128 : Int) ^ k ≤ 128 ^ 3 := by gcongr <;> omega
      rw [hk', encodeS64_eq, length_encodeInt_le_iff] at hle
      simp only [hk', encodeS32_eq, length_encodeInt_le_iff, Int64.toInt_toInt32]
      rw [Int.bmod_eq_of_le (by omega) (by omega)]
      exact hle
  · simp at h

/-! Written forms mark their own end, and none is shorter. -/

/-- The bytes are the shortest form of a number for a reader: whatever follows them, the reader
returns the number and leaves what follows, and it never returns the number from fewer bytes. -/
structure ShortestForm {α : Type} (read : Bytes → Except (Stop × Bytes) (Taken α)) (form : Bytes)
    (n : α) : Prop where
  back (rest : Bytes) : read (form ++ rest) = .ok ⟨n, form.length, rest⟩
  least {b : Bytes} {t : Taken α} (h : read b = .ok t) (hn : t.value = n) :
    form.length ≤ t.used ∧ b.length = t.used + t.rest.length

theorem shortestForm_encodeU32 (v : UInt32) : ShortestForm takeU32 (encodeU32 v) v where
  back := takeU32_encodeU32 v
  least h hn := hn ▸ takeU32_ok h

/-- A number is read back with any width that leaves it enough bytes. -/
theorem shortestForm_encodeS64 {bits : Nat} {v : Int64}
    (hfit : (encodeS64 v).length ≤ byteLimit bits) :
    ShortestForm (takeSigned bits) (encodeS64 v) v where
  back rest := takeSigned_encodeS64 bits v rest hfit
  least h hn := by
    obtain ⟨hle, -, hlen⟩ := takeSigned_ok h
    exact ⟨hn ▸ hle, hlen⟩

theorem length_encodeS64_le_of_narrow {v : Int64} (hlo : -2 ^ 31 ≤ v.toInt)
    (hhi : v.toInt < 2 ^ 31) : (encodeS64 v).length ≤ byteLimit 32 := by
  have hlim : byteLimit 32 = 4 + 1 := rfl
  rw [encodeS64_eq, hlim, length_encodeInt_le_iff]
  omega

/-- What is written is the shortest form of its number: without sign for the reader of 32 bits,
with sign for the reader of 64 bits, and for that of 32 bits if the number has no more. -/
theorem encodings_are_shortest :
    (∀ v : UInt32, ShortestForm takeU32 (encodeU32 v) v) ∧
      (∀ v : Int64, ShortestForm (takeSigned 64) (encodeS64 v) v) ∧
      ∀ v : Int64, -2 ^ 31 ≤ v.toInt → v.toInt < 2 ^ 31 →
        ShortestForm (takeSigned 32) (encodeS64 v) v :=
  ⟨shortestForm_encodeU32,
    fun v => shortestForm_encodeS64 (length_encodeS64_le v),
    fun _ hlo hhi => shortestForm_encodeS64 (length_encodeS64_le_of_narrow hlo hhi)⟩

/-- The least number of 32 bits takes all five bytes that its reader allows. -/
theorem encodings_are_shortest_least :
    let v : Int64 := -2147483648
    (-2 ^ 31 ≤ v.toInt ∧ v.toInt < 2 ^ 31) ∧
      encodeS64 v = [0x80, 0x80, 0x80, 0x80, 0x78] ∧ ShortestForm (takeSigned 32) (encodeS64 v) v := by
  intro v
  have hv : v.toInt = -2147483648 := by decide
  have hform : encodeS64 v = [0x80, 0x80, 0x80, 0x80, 0x78] := by
    rw [encodeS64_eq, hv]
    decide +kernel
  exact ⟨by decide, hform, encodings_are_shortest.2.2 v (by decide) (by decide)⟩

end TapeWasm.Wasm.Varint
