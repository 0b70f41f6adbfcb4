import Mathlib.Tactic.Ring
import TapeWasm.Wasm.Varint

/-!
Numbers in variable length as arithmetic. The loops that write and read them work on machine words;
here each is the same as a function on numbers to the base 128, whatever the width.
-/
namespace TapeWasm.Wasm.Varint

/-- A natural number in the fewest bytes. -/
def encodeNat (n : Nat) : Bytes :=
  if n < 128 then [UInt8.ofNat n]
  else UInt8.ofNat (n % 128 + 128) :: encodeNat (n / 128)
termination_by n
decreasing_by omega

/-- An integer in the fewest bytes, the second-highest bit of the last one telling its sign. -/
def encodeInt (v : Int) : Bytes :=
  let low := v % 128
  let high := v / 128
  if (high = 0 ∧ low < 64) ∨ (high = -1 ∧ 64 ≤ low) then [UInt8.ofNat low.toNat]
  else UInt8.ofNat (low.toNat + 128) :: encodeInt high
termination_by v.natAbs
decreasing_by omega

/-- The bytes of the number at the front and those after it; at most `limit` bytes are looked at. On
a failure the bytes not looked at are left. -/
def number : Nat → Bytes → Except (Stop × Bytes) (Bytes × Bytes)
  | 0, r => .error (.tooLong, r)
  | _ + 1, [] => .error (.ranOut, [])
  | limit + 1, b :: r =>
    if b.toNat < 128 then .ok ([b], r) else (number limit r).map fun p => (b :: p.1, p.2)

/-- The bytes of one number: all but the last have the top bit set. -/
inductive IsVarint : Bytes → Prop
  | last {b : UInt8} (h : b.toNat < 128) : IsVarint [b]
  | more {b : UInt8} {r : Bytes} (h : 128 ≤ b.toNat) (hr : IsVarint r) : IsVarint (b :: r)

theorem IsVarint.ne_nil {v : Bytes} (h : IsVarint v) : v ≠ [] := by
  cases h <;> simp

theorem number_of_isVarint {v : Bytes} (hv : IsVarint v) {limit : Nat} (h : v.length ≤ limit)
    (rest : Bytes) : number limit (v ++ rest) = .ok (v, rest) := by
  induction hv generalizing limit with
  | @last b hb =>
    obtain ⟨k, rfl⟩ : ∃ k, limit = k + 1 := ⟨limit - 1, by simp at h; omega⟩
    simp [number, hb]
  | @more b r hb _ ih =>
    obtain ⟨k, rfl⟩ : ∃ k, limit = k + 1 := ⟨limit - 1, by simp at h; omega⟩
    have hr : number k (r ++ rest) = .ok (r, rest) := ih (by simpa using h)
    simp [number, Nat.not_lt.mpr hb, hr, Except.map]

theorem number_of_long {v : Bytes} (hv : IsVarint v) {limit : Nat} (h : limit < v.length)
    (rest : Bytes) : number limit (v ++ rest) = .error (.tooLong, (v ++ rest).drop limit) := by
  induction hv generalizing limit with
  | last =>
    obtain rfl : limit = 0 := by simpa using h
    rfl
  | @more b r hb _ ih =>
    cases limit with
    | zero => rfl
    | succ k =>
      have hr := ih (Nat.lt_of_succ_lt_succ h)
      simp [number, Nat.not_lt.mpr hb, hr, Except.map]

theorem isVarint_of_number {limit : Nat} {b v rest : Bytes} (h : number limit b = .ok (v, rest)) :
    IsVarint v ∧ b = v ++ rest ∧ v.length ≤ limit := by
  induction limit generalizing b v with
  | zero => simp [number] at h
  | succ limit ih =>
    cases b with
    | nil => simp [number] at h
    | cons x r =>
      rw [number] at h
      split at h
      case isTrue hx =>
        obtain ⟨rfl, rfl⟩ : [x] = v ∧ r = rest := by simpa using h
        exact ⟨.last hx, rfl, by simp⟩
      case isFalse hx =>
        cases hr : number limit r with
        | error e => simp [hr, Except.map] at h
        | ok p =>
          obtain ⟨rfl, rfl⟩ : x :: p.1 = v ∧ p.2 = rest := by simpa [hr, Except.map] using h
          obtain ⟨hv, rfl, hlen⟩ := ih hr
          exact ⟨.more (Nat.not_lt.mp hx) hv, rfl, by simpa using hlen⟩

/-- What a reader returns that turns the bytes of a number into a word. -/
theorem exists_isVarint_of_map_number {α : Type} {limit : Nat} {f : Bytes → α} {b : Bytes}
    {t : Taken α}
    (h : ((number limit b).map fun p => (⟨f p.1, p.1.length, p.2⟩ : Taken α)) = .ok t) :
    ∃ v, IsVarint v ∧ b = v ++ t.rest ∧ v.length ≤ limit ∧ t.used = v.length ∧ t.value = f v := by
  cases hnum : number limit b with
  | error e => simp [hnum, Except.map] at h
  | ok p =>
    obtain ⟨v, rest⟩ := p
    obtain ⟨hv, hb, hlen⟩ := isVarint_of_number hnum
    rw [hnum] at h
    obtain rfl := Except.ok.inj h
    exact ⟨v, hv, hb, hlen, rfl, rfl⟩

/-- The low seven bits of all bytes, those of the first byte lowest. -/
def payload : Bytes → Nat
  | [] => 0
  | b :: r => b.toNat % 128 + 128 * payload r

/-- The number with sign: the highest bit of the payload stands for all bits above it too. -/
def extended (v : Bytes) : Int :=
  if v.getLast?.any fun b => 64 ≤ b.toNat % 128 then payload v - 128 ^ v.length else payload v

theorem extended_singleton (b : UInt8) :
    extended [b] = if 64 ≤ b.toNat % 128 then (b.toNat % 128 : Int) - 128 else b.toNat % 128 := by
  simp [extended, payload]

theorem extended_cons (b : UInt8) {r : Bytes} (hr : r ≠ []) :
    extended (b :: r) = b.toNat % 128 + 128 * extended r := by
  have hlast : (b :: r).getLast? = r.getLast? := by
    obtain ⟨x, r, rfl⟩ := List.exists_cons_of_ne_nil hr
    exact List.getLast?_cons_cons
  unfold extended
  rw [hlast]
  split
  · simp only [payload, List.length_cons, pow_succ]
    push_cast
    ring
  · simp [payload]

/-! The bits of a byte. -/

private theorem lor_128 : ∀ n < 256, n ||| 128 = n % 128 + 128 := by decide +kernel

private theorem land_128 : ∀ n < 256, n &&& 128 = 0 ↔ n < 128 := by decide +kernel

private theorem land_64 : ∀ n < 256, n &&& 64 = 0 ↔ n % 128 < 64 := by decide +kernel

theorem toNat_or_top (b : UInt8) : (b ||| 0x80).toNat = b.toNat % 128 + 128 := by
  rw [UInt8.toNat_or]
  exact lor_128 _ b.toNat_lt

theorem toNat_and_low (b : UInt8) : (b &&& 0x7f).toNat = b.toNat % 128 := by
  rw [UInt8.toNat_and]
  exact Nat.and_two_pow_sub_one_eq_mod b.toNat 7

theorem and_top_eq_zero_iff (b : UInt8) : b &&& 0x80 = 0 ↔ b.toNat < 128 := by
  rw [← UInt8.toNat_inj, UInt8.toNat_and]
  exact land_128 _ b.toNat_lt

theorem and_sign_eq_zero_iff (b : UInt8) : b &&& 0x40 = 0 ↔ b.toNat % 128 < 64 := by
  rw [← UInt8.toNat_inj, UInt8.toNat_and]
  exact land_64 _ b.toNat_lt

/-! Writing. -/

theorem encodeU32_eq (v : UInt32) : encodeU32 v = encodeNat v.toNat := by
  fun_induction encodeU32 v with
  | case1 v h ih =>
    have hge : ¬ v.toNat < 128 := Nat.not_lt.mpr (UInt32.le_iff_toNat_le.mp h)
    have hshift : (v >>> 7).toNat = v.toNat / 128 := by
      rw [UInt32.toNat_shiftRight]
      exact Nat.shiftRight_eq_div_pow v.toNat 7
    have hbyte : v.toUInt8 ||| 0x80 = UInt8.ofNat (v.toNat % 128 + 128) := by
      apply UInt8.toNat_inj.mp
      rw [toNat_or_top, UInt32.toNat_toUInt8, UInt8.toNat_ofNat']
      omega
    rw [encodeNat, if_neg hge, ih, hshift, hbyte]
  | case2 v h =>
    have hlt : v.toNat < 128 := Nat.not_le.mp fun hle => h (UInt32.le_iff_toNat_le.mpr hle)
    rw [encodeNat, if_pos hlt]
    rfl

theorem toInt_emod_128 (v : Int64) : v.toInt % 128 = (v.toBitVec.toNat % 128 : Nat) := by
  rw [← Int64.toInt_toBitVec, BitVec.toInt_eq_toNat_cond]
  split <;> omega

theorem toNat_low_byte (v : Int64) :
    (v &&& 0x7f).toUInt64.toUInt8.toNat = (v.toInt % 128).toNat := by
  have hand : (v &&& 0x7f).toUInt64.toNat = v.toBitVec.toNat % 128 :=
    Nat.and_two_pow_sub_one_eq_mod v.toBitVec.toNat 7
  rw [UInt64.toNat_toUInt8, hand, toInt_emod_128]
  omega

/-- The rest of a word is its sign alone. -/
theorem isLast_iff (v : Int64) :
    let b := (v &&& 0x7f).toUInt64.toUInt8
    ((v >>> 7 = 0 ∧ b &&& 0x40 = 0) ∨ (v >>> 7 = -1 ∧ b &&& 0x40 ≠ 0)) ↔
      (v.toInt / 128 = 0 ∧ v.toInt % 128 < 64) ∨ (v.toInt / 128 = -1 ∧ 64 ≤ v.toInt % 128) := by
  intro b
  have h0 : v >>> 7 = 0 ↔ v.toInt / 128 = 0 := by
    rw [← Int64.toInt_inj, toInt_shiftRight_seven]
    rfl
  have h1 : v >>> 7 = -1 ↔ v.toInt / 128 = -1 := by
    rw [← Int64.toInt_inj, toInt_shiftRight_seven]
    rfl
  have hb : b.toNat = (v.toInt % 128).toNat := toNat_low_byte v
  rw [h0, h1, ne_eq, and_sign_eq_zero_iff, hb]
  omega

theorem encodeS64_eq (v : Int64) : encodeS64 v = encodeInt v.toInt := by
  fun_induction encodeS64 v with
  | case1 v b rest h =>
    have hb : b = UInt8.ofNat (v.toInt % 128).toNat := by
      rw [← toNat_low_byte v, UInt8.ofNat_toNat]
    rw [encodeInt, if_pos ((isLast_iff v).mp h), hb]
  | case2 v b rest h ih =>
    have hb : b ||| 0x80 = UInt8.ofNat ((v.toInt % 128).toNat + 128) := by
      apply UInt8.toNat_inj.mp
      rw [toNat_or_top, toNat_low_byte, UInt8.toNat_ofNat']
      omega
    rw [encodeInt, if_neg fun hlast => h ((isLast_iff v).mpr hlast), ih, hb, toInt_shiftRight_seven]

theorem encodeS32_eq (v : Int32) : encodeS32 v = encodeInt v.toInt := by
  rw [encodeS32, encodeS64_eq, Int32.toInt_toInt64]

/-! Reading. A loop that has read `k` bytes holds their payload `n` up to the width. -/

/-- Bits put above those of a number are added to it, up to the width. -/
theorem ofNat_or_shiftLeft {w n s : Nat} (h : n < 2 ^ s) (x : BitVec w) :
    BitVec.ofNat w n ||| x <<< s = BitVec.ofNat w (n + 2 ^ s * x.toNat) := by
  apply BitVec.eq_of_toNat_eq
  rw [BitVec.toNat_or, BitVec.toNat_shiftLeft, BitVec.toNat_ofNat, BitVec.toNat_ofNat,
    ← Nat.or_mod_two_pow, Nat.or_comm, ← Nat.shiftLeft_add_eq_or_of_lt h, Nat.shiftLeft_eq,
    Nat.add_comm, Nat.mul_comm]

theorem ofNat_add_mul_toNat {w : Nat} (n m : Nat) (x : BitVec w) :
    BitVec.ofNat w (n + m * x.toNat) = BitVec.ofInt w (n + m * x.toInt) := by
  rw [BitVec.ofNat_add, BitVec.ofNat_mul, BitVec.ofNat_toNat, BitVec.setWidth_eq,
    BitVec.ofInt_add, BitVec.ofInt_mul, BitVec.ofInt_toInt, BitVec.ofInt_natCast,
    BitVec.ofInt_natCast]

/-- One more byte. -/
theorem add_payload_lt {n k g : Nat} (hn : n < 2 ^ (7 * k)) (hg : g < 128) :
    n + 2 ^ (7 * k) * g < 2 ^ (7 * (k + 1)) := by
  have hpow : 2 ^ (7 * (k + 1)) = 2 ^ (7 * k) * 128 := pow_add 2 (7 * k) 7
  have hle : 2 ^ (7 * k) * (g + 1) ≤ 2 ^ (7 * k) * 128 := Nat.mul_le_mul_left _ hg
  rw [Nat.mul_add, Nat.mul_one] at hle
  omega

/-- A loop that takes a byte at a time, and that after `k` bytes with the payload `n` returns `f` of
the number whose upper bits the other bytes give. -/
structure TakesBytes {α : Type} (limit : Nat) (f : Int → α) (value : Bytes → Int)
    (loop : Nat → Nat → Bytes → Except (Stop × Bytes) (Taken α)) : Prop where
  value_cons (b : UInt8) {v : Bytes} (hv : v ≠ []) :
    value (b :: v) = b.toNat % 128 + 128 * value v
  tooLong (n : Nat) {k : Nat} (b : Bytes) (hk : limit ≤ k) : loop n k b = .error (.tooLong, b)
  ranOut (n : Nat) {k : Nat} (hk : k < limit) : loop n k [] = .error (.ranOut, [])
  last {n k : Nat} {b : UInt8} (r : Bytes) (hn : n < 2 ^ (7 * k)) (hk : k < limit)
    (hb : b.toNat < 128) :
    loop n k (b :: r) = .ok ⟨f (n + 2 ^ (7 * k) * value [b]), k + 1, r⟩
  more {n k : Nat} {b : UInt8} (r : Bytes) (hn : n < 2 ^ (7 * k)) (hk : k < limit)
    (hb : ¬ b.toNat < 128) :
    loop n k (b :: r) = loop (n + 2 ^ (7 * k) * (b.toNat % 128)) (k + 1) r

theorem TakesBytes.eq_number {α : Type} {limit : Nat} {f : Int → α} {value : Bytes → Int}
    {loop : Nat → Nat → Bytes → Except (Stop × Bytes) (Taken α)}
    (h : TakesBytes limit f value loop) {n k : Nat} (hn : n < 2 ^ (7 * k)) (b : Bytes) :
    loop n k b = (number (limit - k) b).map fun p =>
      ⟨f (n + 2 ^ (7 * k) * value p.1), k + p.1.length, p.2⟩ := by
  induction b generalizing n k with
  | nil =>
    rcases Nat.lt_or_ge k limit with hk | hk
    · obtain ⟨m, hm⟩ : ∃ m, limit - k = m + 1 := ⟨limit - k - 1, by omega⟩
      rw [h.ranOut n hk, hm]
      rfl
    · rw [h.tooLong n [] hk, Nat.sub_eq_zero_of_le hk]
      rfl
  | cons b r ih =>
    rcases Nat.lt_or_ge k limit with hk | hk
    · obtain ⟨m, hm⟩ : ∃ m, limit - k = m + 1 := ⟨limit - k - 1, by omega⟩
      rw [hm, number]
      split
      case isTrue hb => exact h.last r hn hk hb
      case isFalse hb =>
        have hgo := ih (add_payload_lt hn (Nat.mod_lt b.toNat (by decide)))
        have hm' : limit - (k + 1) = m := by omega
        rw [h.more r hn hk hb, hgo, hm']
        cases hnum : number m r with
        | error e => rfl
        | ok p =>
          have hvalue := h.value_cons b (isVarint_of_number hnum).1.ne_nil
          have hpow : (2 : Int) ^ (7 * (k + 1)) = 2 ^ (7 * k) * 128 := pow_add 2 (7 * k) 7
          simp only [Except.map, hvalue, List.length_cons, hpow]
          push_cast
          congr 2
          · ring_nf
          · omega
    · rw [h.tooLong n (b :: r) hk, Nat.sub_eq_zero_of_le hk]
      rfl

/-! Words without sign. -/

theorem or_shiftLeft_u32 {n s : Nat} (hn : n < 2 ^ s) (hs : s < 32) (b : UInt8) :
    UInt32.ofNat n ||| (b &&& 0x7f).toUInt32 <<< UInt32.ofNat s =
      UInt32.ofNat (n + 2 ^ s * (b.toNat % 128)) := by
  have hmod : (UInt32.ofNat s % 32).toNat = s := by
    rw [UInt32.toNat_mod, UInt32.toNat_ofNat_of_lt' (hs.trans (by decide))]
    exact Nat.mod_eq_of_lt hs
  have hshift : ((b &&& 0x7f).toUInt32 <<< UInt32.ofNat s).toBitVec =
      (b &&& 0x7f).toUInt32.toBitVec <<< s := by
    rw [UInt32.toBitVec_shiftLeft, BitVec.shiftLeft_eq']
    exact congrArg _ hmod
  have hlow : (b &&& 0x7f).toUInt32.toBitVec.toNat = b.toNat % 128 := toNat_and_low b
  apply UInt32.toBitVec_inj.mp
  rw [UInt32.toBitVec_or, hshift, UInt32.toBitVec_ofNat', ofNat_or_shiftLeft hn, hlow]
  rfl

theorem takesBytes_u32 :
    TakesBytes 5 (fun n => ⟨BitVec.ofInt 32 n⟩) (fun v => payload v)
      fun n k b => takeU32From (UInt32.ofNat n) (7 * k) b where
  value_cons b v _ := by simp [payload]
  tooLong n k b hk := by
    have hshift : ¬ 7 * k < 35 := by omega
    cases b <;> simp [takeU32From, hshift]
  ranOut n k hk := by
    have hshift : 7 * k < 35 := by omega
    simp [takeU32From, hshift]
  last {n k b} r hn hk hb := by
    have hshift : 7 * k < 35 := by omega
    have hused : 7 * k / 7 + 1 = k + 1 := by omega
    have hvalue : UInt32.ofNat (n + 2 ^ (7 * k) * (b.toNat % 128)) =
        ⟨BitVec.ofInt 32 (n + 2 ^ (7 * k) * payload [b])⟩ := by
      apply UInt32.toBitVec_inj.mp
      exact_mod_cast (BitVec.ofInt_natCast 32 _).symm
    rw [takeU32From, if_pos hshift, or_shiftLeft_u32 hn (by omega),
      if_pos ((and_top_eq_zero_iff b).mpr hb), hused, hvalue]
  more {n k b} r hn hk hb := by
    have hshift : 7 * k < 35 := by omega
    rw [takeU32From, if_pos hshift, or_shiftLeft_u32 hn (by omega),
      if_neg fun h => hb ((and_top_eq_zero_iff b).mp h)]
    rfl

theorem takeU32_eq (b : Bytes) : takeU32 b =
    (number (byteLimit 32) b).map fun p => ⟨UInt32.ofNat (payload p.1), p.1.length, p.2⟩ := by
  have h := takesBytes_u32.eq_number (n := 0) (k := 0) (by decide) b
  simp only [Nat.cast_zero, Nat.mul_zero, pow_zero, one_mul, zero_add, BitVec.ofInt_natCast] at h
  exact h

/-! Words with sign. -/

theorem toBitVec_shiftLeft (x : Int64) (s : Nat) :
    (shiftLeft x s).toBitVec = x.toBitVec <<< s := by
  unfold shiftLeft
  split
  case isTrue hs =>
    have hmod : ∀ s < 64, (BitVec.ofNat 64 s).smod 64 = BitVec.ofNat 64 s := by decide +kernel
    have hs' : (Int64.ofNat s).toBitVec.smod 64 = BitVec.ofNat 64 s := hmod s hs
    rw [Int64.toBitVec_shiftLeft, hs', BitVec.shiftLeft_eq', BitVec.toNat_ofNat,
      Nat.mod_eq_of_lt (hs.trans (by decide))]
  case isFalse hs =>
    rw [BitVec.shiftLeft_eq_zero (Nat.not_lt.mp hs)]
    rfl

theorem or_shiftLeft_s64 {n s : Nat} (hn : n < 2 ^ s) (x : Int64) :
    Int64.ofNat n ||| shiftLeft x s = Int64.ofInt (n + 2 ^ s * x.toInt) := by
  apply Int64.toBitVec_inj.mp
  have h := ofNat_add_mul_toNat n (2 ^ s) x.toBitVec
  rw [Int64.toBitVec_or, toBitVec_shiftLeft]
  exact_mod_cast (ofNat_or_shiftLeft hn x.toBitVec).trans h

theorem or_low_shiftLeft_s64 {n s : Nat} (hn : n < 2 ^ s) (b : UInt8) :
    Int64.ofNat n ||| shiftLeft (b &&& 0x7f).toUInt64.toInt64 s =
      Int64.ofNat (n + 2 ^ s * (b.toNat % 128)) := by
  have hlow : (b &&& 0x7f).toUInt64.toInt64.toBitVec.toNat = b.toNat % 128 := toNat_and_low b
  apply Int64.toBitVec_inj.mp
  rw [Int64.toBitVec_or, toBitVec_shiftLeft, ← hlow]
  exact ofNat_or_shiftLeft hn _

/-- A sign bit past the word's last bit changes nothing. -/
theorem ofInt_sub_two_pow {n s : Nat} (hn : n < 2 ^ s) :
    Int64.ofInt (n - 2 ^ s) =
      if s < 64 then Int64.ofNat n ||| shiftLeft (-1) s else Int64.ofNat n := by
  have h := or_shiftLeft_s64 hn (-1)
  have hminus : (-1 : Int64).toInt = -1 := by decide
  rw [hminus, mul_neg_one, ← sub_eq_add_neg] at h
  split
  case isTrue => exact h.symm
  case isFalse hs => rw [← h, shiftLeft, if_neg hs, Int64.or_zero]

theorem takesBytes_signed (limit : Nat) :
    TakesBytes limit Int64.ofInt extended
      fun n k b => takeSignedFrom (limit * 7) (Int64.ofNat n) (7 * k) b where
  value_cons b v hv := extended_cons b hv
  tooLong n k b hk := by
    have hshift : ¬ 7 * k < limit * 7 := by omega
    cases b <;> simp [takeSignedFrom, hshift]
  ranOut n k hk := by
    have hshift : 7 * k < limit * 7 := by omega
    simp [takeSignedFrom, hshift]
  last {n k b} r hn hk hb := by
    have hshift : 7 * k < limit * 7 := by omega
    have hused : (7 * k + 7) / 7 = k + 1 := by omega
    have htop : ¬ (b &&& 0x80 ≠ 0) := not_not.mpr ((and_top_eq_zero_iff b).mpr hb)
    have hnext := add_payload_lt hn (Nat.mod_lt b.toNat (by decide : 0 < 128))
    have hpow : (2 : Int) ^ (7 * (k + 1)) = 2 ^ (7 * k) * 128 := pow_add 2 (7 * k) 7
    have hsum : (n + 2 ^ (7 * k) * (b.toNat % 128 - 128) : Int) =
        (n + 2 ^ (7 * k) * (b.toNat % 128) : Nat) - 2 ^ (7 * (k + 1)) := by
      rw [hpow]
      push_cast
      ring
    rw [takeSignedFrom, if_pos hshift, if_neg htop, or_low_shiftLeft_s64 hn, hused,
      extended_singleton]
    simp only [ne_eq, and_sign_eq_zero_iff, Nat.not_lt]
    by_cases hsign : 64 ≤ b.toNat % 128
    · have hword : 7 * k + 7 < 64 ↔ 7 * (k + 1) < 64 := by omega
      simp only [hsign, and_true, if_true, hsum, ofInt_sub_two_pow hnext, hword]
      split <;> rfl
    · simp only [hsign, and_false, if_false]
      rfl
  more {n k b} r hn hk hb := by
    have hshift : 7 * k < limit * 7 := by omega
    have htop : b &&& 0x80 ≠ 0 := fun h => hb ((and_top_eq_zero_iff b).mp h)
    rw [takeSignedFrom, if_pos hshift, if_pos htop, or_low_shiftLeft_s64 hn]
    rfl

theorem takeSigned_eq (bits : Nat) (b : Bytes) : takeSigned bits b =
    (number (byteLimit bits) b).map fun p => ⟨Int64.ofInt (extended p.1), p.1.length, p.2⟩ := by
  have h := (takesBytes_signed (byteLimit bits)).eq_number (n := 0) (k := 0) (by decide) b
  simp only [Nat.cast_zero, Nat.mul_zero, pow_zero, one_mul, zero_add] at h
  exact h

end TapeWasm.Wasm.Varint
