import TapeWasm.Wasm.Machine.Memory

/-!
What writes to a memory do to later reads: the place written reads back as what was written, and
every other place reads as before.
-/
namespace TapeWasm

theorem Bytes.word_ofWord (w : UInt32) :
    word w.toUInt8 (w >>> 8).toUInt8 (w >>> 16).toUInt8 (w >>> 24).toUInt8 = w := by
  apply UInt32.eq_of_toBitVec_eq
  simp only [word, UInt32.toBitVec_or, UInt32.toBitVec_shiftLeft, UInt8.toBitVec_toUInt32,
    UInt32.toBitVec_toUInt8, UInt32.toBitVec_shiftRight]
  ext i hi
  simp
  grind

/-- A word with another lowest byte. -/
theorem Bytes.word_replaceLow (b₀ b₁ b₂ b₃ x : UInt8) :
    word x b₁ b₂ b₃ = (word b₀ b₁ b₂ b₃ >>> 8) <<< 8 ||| x.toUInt32 := by
  apply UInt32.eq_of_toBitVec_eq
  simp only [word, UInt32.toBitVec_or, UInt32.toBitVec_shiftLeft, UInt8.toBitVec_toUInt32,
    UInt32.toBitVec_shiftRight]
  ext i hi
  simp
  grind

theorem Bytes.ofWord_word (b₀ b₁ b₂ b₃ : UInt8) :
    ofWord (word b₀ b₁ b₂ b₃) = [b₀, b₁, b₂, b₃] := by
  simp only [ofWord, List.cons.injEq, and_true]
  refine ⟨?_, ?_, ?_, ?_⟩
  all_goals
    apply UInt8.eq_of_toBitVec_eq
    simp only [word, UInt32.toBitVec_or, UInt32.toBitVec_shiftLeft, UInt8.toBitVec_toUInt32,
      UInt32.toBitVec_toUInt8, UInt32.toBitVec_shiftRight]
    ext i hi
    simp <;> grind

namespace Wasm.Memory

@[simp] theorem at_setByte (m : Memory) (a i : Nat) (b : UInt8) :
    (m.setByte a b).at_ i = if i = a ∧ a < m.size then b else m.at_ i := by
  change (m.bytes.setIfInBounds a b).getD i 0 = _
  rw [Array.getD_eq_getD_getElem?, Array.getElem?_setIfInBounds]
  by_cases hi : a = i
  · subst hi
    by_cases h : a < m.bytes.size
    · simp [size, h]
    · simp [size, h, at_]
  · rw [if_neg hi, if_neg fun h => hi h.1.symm, ← Array.getD_eq_getD_getElem?]
    rfl

theorem at_setByte_ne {m : Memory} {a i : Nat} (b : UInt8) (h : i ≠ a) :
    (m.setByte a b).at_ i = m.at_ i := by
  rw [at_setByte, if_neg fun hi => h hi.1]

theorem at_setByte_self {m : Memory} {a : Nat} (b : UInt8) (h : a < m.size) :
    (m.setByte a b).at_ a = b := by
  rw [at_setByte, if_pos ⟨rfl, h⟩]

theorem fill_cons (m : Memory) (a : Nat) (b : UInt8) (r : Bytes) :
    m.fill a (b :: r) = (m.setByte a b).fill (a + 1) r := rfl

theorem at_fill_outside {m : Memory} {a i : Nat} {b : Bytes} (h : i < a ∨ a + b.length ≤ i) :
    (m.fill a b).at_ i = m.at_ i := by
  induction b generalizing m a with
  | nil => rfl
  | cons x r ih =>
    rw [List.length_cons] at h
    rw [fill_cons, ih (by omega), at_setByte_ne x (by omega)]

theorem at_fill_inside {m : Memory} {a k : Nat} {b : Bytes} {x : UInt8} (h : b[k]? = some x)
    (hsize : a + k < m.size) : (m.fill a b).at_ (a + k) = x := by
  induction b generalizing m a k with
  | nil => simp at h
  | cons y r ih =>
    rw [fill_cons]
    cases k with
    | zero =>
      obtain rfl : y = x := by simpa using h
      rw [at_fill_outside (by omega), Nat.add_zero, at_setByte_self y (by omega)]
    | succ k =>
      have hr : r[k]? = some x := by simpa using h
      rw [← Nat.add_assoc, Nat.add_right_comm]
      exact ih hr (by rw [size_setByte]; omega)

theorem at_fill_congr {m m' : Memory} {a i : Nat} {b : Bytes} (hsize : m'.size = m.size)
    (h : m'.at_ i = m.at_ i) : (m'.fill a b).at_ i = (m.fill a b).at_ i := by
  induction b generalizing m m' a with
  | nil => exact h
  | cons x r ih =>
    rw [fill_cons, fill_cons]
    apply ih (by simp [hsize])
    rw [at_setByte, at_setByte, hsize, h]

/-- Words are read alike from memories that hold the same bytes there. -/
theorem word?_congr {m m' : Memory} {a : Nat} (hsize : m'.size = m.size)
    (h : ∀ i, a ≤ i → i < a + 4 → m'.at_ i = m.at_ i) : m'.word? a = m.word? a := by
  unfold word?
  rw [hsize, h a (by omega) (by omega), h (a + 1) (by omega) (by omega),
    h (a + 2) (by omega) (by omega), h (a + 3) (by omega) (by omega)]

theorem word?_setWord_self {m : Memory} {a : Nat} (w : UInt32) (h : a + 4 ≤ m.size) :
    (m.setWord a w).word? a = some w := by
  have hbyte (k : Nat) (x : UInt8) (hk : (Bytes.ofWord w)[k]? = some x) (hlt : k < 4) :
      (m.setWord a w).at_ (a + k) = x := at_fill_inside hk (by omega)
  rw [word?, size_setWord, if_pos h, hbyte 1 _ rfl (by decide), hbyte 2 _ rfl (by decide),
    hbyte 3 _ rfl (by decide)]
  rw [show (m.setWord a w).at_ a = _ from hbyte 0 _ rfl (by decide), Bytes.word_ofWord]

theorem at_setWord {m : Memory} {a i : Nat} (w : UInt32) (h : i < a ∨ a + 4 ≤ i) :
    (m.setWord a w).at_ i = m.at_ i :=
  at_fill_outside h

theorem word?_setWord_of_disjoint {m : Memory} {a b : Nat} (w : UInt32)
    (h : b + 4 ≤ a ∨ a + 4 ≤ b) : (m.setWord a w).word? b = m.word? b :=
  word?_congr (size_setWord m a w) fun _ _ _ => at_setWord w (by omega)

/-- Writing one byte at the address of a word replaces the word's lowest byte. -/
theorem word?_fill_singleton {m : Memory} {a : Nat} {v : UInt32} (x : UInt8)
    (h : m.word? a = some v) :
    (m.fill a [x]).word? a = some ((v >>> 8) <<< 8 ||| x.toUInt32) := by
  unfold word? at h ⊢
  split at h
  · rename_i hsize
    obtain rfl := Option.some.inj h
    have hlow : (m.fill a [x]).at_ a = x :=
      at_fill_inside (k := 0) rfl (by omega)
    rw [size_fill, if_pos hsize, hlow, at_fill_outside (by simp), at_fill_outside (by simp),
      at_fill_outside (by simp), ← Bytes.word_replaceLow]
  · simp at h

theorem word?_zeroed {n a : Nat} (h : a + 4 ≤ n) : (zeroed n).word? a = some 0 := by
  have hzero (i : Nat) (hi : i < n) : (zeroed n).at_ i = 0 := by simp [zeroed, at_, hi]
  rw [word?, size_zeroed, if_pos h, hzero a (by omega), hzero (a + 1) (by omega),
    hzero (a + 2) (by omega), hzero (a + 3) (by omega)]
  rfl

theorem size_of_word? {m : Memory} {a : Nat} {v : UInt32} (h : m.word? a = some v) :
    a + 4 ≤ m.size := by
  unfold word? at h
  split at h
  · assumption
  · simp at h

theorem eq_of_at {m m' : Memory} (hsize : m.size = m'.size) (h : ∀ i, m.at_ i = m'.at_ i) :
    m = m' := by
  obtain ⟨bytes⟩ := m
  obtain ⟨bytes'⟩ := m'
  congr
  apply Array.ext hsize
  intro i hi hi'
  simpa [at_, hi, hi'] using h i

/-- Writing what is there already changes nothing. -/
theorem setWord_self {m : Memory} {a : Nat} {w : UInt32} (h : m.word? a = some w) :
    m.setWord a w = m := by
  have hsize := size_of_word? h
  rw [word?, if_pos hsize] at h
  refine eq_of_at (size_setWord m a w) fun i => ?_
  by_cases hi : i < a ∨ a + 4 ≤ i
  · exact at_setWord w hi
  · obtain ⟨k, rfl⟩ : ∃ k, i = a + k := ⟨i - a, by omega⟩
    refine at_fill_inside ?_ (by omega)
    rw [← Option.some.inj h, Bytes.ofWord_word]
    match k, (show k < 4 by omega) with
    | 0, _ | 1, _ | 2, _ | 3, _ => rfl

/-- Of two writes to one place the second stays. -/
theorem setWord_setWord {m : Memory} {a : Nat} (v w : UInt32) (h : a + 4 ≤ m.size) :
    (m.setWord a v).setWord a w = m.setWord a w := by
  refine eq_of_at (by simp) fun i => ?_
  by_cases hi : i < a ∨ a + 4 ≤ i
  · rw [at_setWord w hi, at_setWord v hi, at_setWord w hi]
  · obtain ⟨k, rfl⟩ : ∃ k, i = a + k := ⟨i - a, by omega⟩
    have hk : k < (Bytes.ofWord w).length := by
      change k < 4
      omega
    have hget := List.getElem?_eq_getElem hk
    rw [setWord, at_fill_inside hget (by simp; omega), setWord, at_fill_inside hget (by omega)]

end Wasm.Memory
end TapeWasm
