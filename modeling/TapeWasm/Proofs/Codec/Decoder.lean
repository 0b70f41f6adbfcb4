import TapeWasm.Proofs.Codec.Varint
import TapeWasm.Wasm.Module.Encode
import TapeWasm.Wasm.Reader

/-!
Decoders and written forms. `Reads` says that a decoder finds a value at the front of any bytes that
start with its written form; `Spends` says that a value was read from at least as many bytes as its
written form has.
-/
namespace TapeWasm.Wasm

/-- The bytes of a text are the form that the text is read from. -/
theorem toString?_eq_some_iff {b : Bytes} {s : String} :
    Bytes.toString? b = some s ↔ Bytes.ofString s = b := by
  unfold Bytes.toString? Bytes.ofString String.fromUTF8?
  constructor
  · intro h
    split at h
    · obtain rfl := Option.some.inj h
      simp [String.fromUTF8]
    · simp at h
  · rintro rfl
    rw [dif_pos (by simpa using s.isValidUTF8)]
    simp [String.fromUTF8]

namespace Decoder

theorem bind_ok_iff {d : Decoder α} {f : α → Decoder β} {r r' : Reader} {b : β} :
    (d >>= f) r = .ok b r' ↔ ∃ a s, d r = .ok a s ∧ f a s = .ok b r' := by
  change EStateM.bind d f r = _ ↔ _
  unfold EStateM.bind
  cases d r <;> simp

@[simp] theorem pure_ok_iff {a b : α} {r r' : Reader} :
    (pure a : Decoder α) r = .ok b r' ↔ a = b ∧ r = r' := by
  change EStateM.Result.ok a r = _ ↔ _
  simp

@[simp] theorem fail_ne_ok {f : DecodeFault} {a : α} {r r' : Reader} :
    ¬ (fail f : Decoder α) r = .ok a r' := by
  simp [fail]

/-- A decoder reads a value from a byte string, whatever follows and wherever it stands. -/
def Reads (d : Decoder α) (b : Bytes) (a : α) : Prop :=
  ∀ rest pos, d ⟨b ++ rest, pos⟩ = .ok a ⟨rest, pos + b.length⟩

/-- What a decoder has read takes at most the bytes that it has spent, when written. -/
def Spends (d : Decoder α) (write : α → Bytes) : Prop :=
  ∀ r a r', d r = .ok a r' → (write a).length + r'.rest.length ≤ r.rest.length

theorem Reads.bind {d : Decoder α} {f : α → Decoder β} {b c : Bytes} {a : α} {x : β}
    (hd : Reads d b a) (hf : Reads (f a) c x) : Reads (d >>= f) (b ++ c) x := by
  intro rest pos
  rw [bind_ok_iff, List.append_assoc]
  refine ⟨a, _, hd _ _, ?_⟩
  rw [hf, List.length_append, Nat.add_assoc]

theorem Reads.pure (a : α) : Reads (Pure.pure a : Decoder α) [] a := fun _ _ => rfl

theorem Reads.map {d : Decoder α} {b : Bytes} {a : α} (hd : Reads d b a) (f : α → β) :
    Reads (do return f (← d)) b (f a) := by
  simpa using hd.bind (f := fun a => Pure.pure (f a)) (Reads.pure (f a))

theorem Reads.within {d : Decoder α} {b : Bytes} {a : α} (hd : Reads d b a) (c : DecodeContext) :
    Reads (Decoder.within c d) b a := by
  intro rest pos
  simp [Decoder.within, hd rest pos]

theorem within_ok_iff {c : DecodeContext} {d : Decoder α} {r r' : Reader} {a : α} :
    within c d r = .ok a r' ↔ d r = .ok a r' := by
  unfold within
  cases d r <;> simp

theorem framed_ok_iff {part : String} {d : Decoder α} {r r' : Reader} {a : α} :
    framed part d r = .ok a r' ↔ d r = .ok a r' := by
  unfold framed
  cases d r <;> simp

theorem reads_byte (b : UInt8) : Reads byte [b] b := fun _ _ => rfl

theorem byte_ok {r r' : Reader} {b : UInt8} (h : byte r = .ok b r') : r.rest = b :: r'.rest := by
  unfold byte at h
  split at h
  · simp at h
  · rename_i hr
    obtain ⟨rfl, rfl⟩ : _ = b ∧ _ = r' := by simpa using h
    exact hr

theorem reads_bytes (b : Bytes) : Reads (bytes b.length) b b := by
  intro rest pos
  simp [bytes]

theorem bytes_ok {n : Nat} {r r' : Reader} {b : Bytes} (h : bytes n r = .ok b r') :
    r.rest = b ++ r'.rest ∧ b.length = n := by
  unfold bytes at h
  split at h
  case isTrue hn =>
    obtain ⟨rfl, rfl⟩ : _ = b ∧ _ = r' := by simpa using h
    simp [hn]
  case isFalse => simp at h

theorem reads_varint {read : Bytes → Except (Varint.Stop × Bytes) (Varint.Taken α)}
    {tooLong : Nat → DecodeFault} {b : Bytes} {a : α}
    (h : ∀ rest, read (b ++ rest) = .ok ⟨a, b.length, rest⟩) : Reads (varint read tooLong) b a := by
  intro rest pos
  simp [varint, h]

theorem varint_ok {read : Bytes → Except (Varint.Stop × Bytes) (Varint.Taken α)}
    {tooLong : Nat → DecodeFault} {r r' : Reader} {a : α}
    (h : varint read tooLong r = .ok a r') :
    ∃ t, read r.rest = .ok t ∧ t.value = a ∧ t.rest = r'.rest := by
  unfold varint at h
  split at h
  · rename_i t ht
    obtain ⟨rfl, rfl⟩ : _ = a ∧ _ = r' := by simpa using h
    exact ⟨t, ht, rfl, rfl⟩
  · simp only at h
    split at h <;> simp at h

theorem reads_u32 (v : UInt32) : Reads u32 (Varint.encodeU32 v) v :=
  reads_varint (Varint.takeU32_encodeU32 v)

theorem reads_s32 (v : Int32) : Reads s32 (Varint.encodeS32 v) v :=
  reads_varint (Varint.takeS32_encodeS32 v)

theorem reads_s64 (v : Int64) : Reads s64 (Varint.encodeS64 v) v :=
  reads_varint (Varint.takeS64_encodeS64 v)

theorem reads_signed {bits : Nat} {v : Int64}
    (h : (Varint.encodeS64 v).length ≤ Varint.byteLimit bits) :
    Reads (signed bits) (Varint.encodeS64 v) v :=
  reads_varint fun rest => Varint.takeSigned_encodeS64 bits v rest h

theorem spends_u32 : Spends u32 Varint.encodeU32 := by
  intro r v r' h
  obtain ⟨t, ht, rfl, hr⟩ := varint_ok h
  obtain ⟨hle, hlen⟩ := Varint.takeU32_ok ht
  rw [← hr]
  omega

theorem spends_s32 : Spends s32 Varint.encodeS32 := by
  intro r v r' h
  obtain ⟨t, ht, rfl, hr⟩ := varint_ok h
  obtain ⟨hle, hlen⟩ := Varint.takeS32_ok ht
  rw [← hr]
  omega

/-- A number read as one of so many bits can be read back as one of so many bits. -/
theorem signed_ok {bits : Nat} {r r' : Reader} {v : Int64} (h : signed bits r = .ok v r') :
    (Varint.encodeS64 v).length + r'.rest.length ≤ r.rest.length ∧
      (Varint.encodeS64 v).length ≤ Varint.byteLimit bits := by
  obtain ⟨t, ht, rfl, hr⟩ := varint_ok h
  obtain ⟨hle, hlim, hlen⟩ := Varint.takeSigned_ok ht
  rw [← hr]
  omega

theorem spends_s64 : Spends s64 Varint.encodeS64 :=
  fun _ _ _ h => (@signed_ok 64 _ _ _ h).1

theorem itemsFrom_reads {item : Nat → Decoder α} {write : α → Bytes} {xs : List α}
    (h : ∀ x ∈ xs, ∀ i, Reads (item i) (write x) x) (i : Nat) (acc : List α) :
    Reads (itemsFrom item xs.length i acc) (xs.flatMap write) (acc.reverse ++ xs) := by
  induction xs generalizing i acc with
  | nil => intro rest pos; simp [itemsFrom]
  | cons x xs ih =>
    intro rest pos
    have hx := h x (by simp) i (xs.flatMap write ++ rest) pos
    have hxs := ih (fun y hy => h y (by simp [hy])) (i + 1) (x :: acc) rest
    simp [itemsFrom, List.append_assoc, hx, hxs, Nat.add_assoc]

theorem reads_items {item : Nat → Decoder α} {write : α → Bytes} {xs : List α}
    (h : ∀ x ∈ xs, ∀ i, Reads (item i) (write x) x) :
    Reads (items item xs.length) (xs.flatMap write) xs :=
  itemsFrom_reads h 0 []

theorem itemsFrom_ok {item : Nat → Decoder α} {write : α → Bytes} {P : α → Prop}
    (h : ∀ i r a r', item i r = .ok a r' →
      P a ∧ (write a).length + r'.rest.length ≤ r.rest.length)
    {count i : Nat} {acc xs : List α} {r r' : Reader}
    (hr : itemsFrom item count i acc r = .ok xs r') :
    ∃ ys, xs = acc.reverse ++ ys ∧ ys.length = count ∧ (∀ y ∈ ys, P y) ∧
      (ys.flatMap write).length + r'.rest.length ≤ r.rest.length := by
  induction count generalizing i acc r with
  | zero =>
    obtain ⟨rfl, rfl⟩ : acc.reverse = xs ∧ r = r' := by simpa [itemsFrom] using hr
    exact ⟨[], by simp⟩
  | succ count ih =>
    rw [itemsFrom] at hr
    split at hr
    · rename_i a s hs
      obtain ⟨hP, hle⟩ := h i r a s hs
      obtain ⟨ys, rfl, hlen, hys, hsp⟩ := ih hr
      refine ⟨a :: ys, by simp, by simp [hlen], by simpa using ⟨hP, hys⟩, ?_⟩
      simp only [List.flatMap_cons, List.length_append]
      omega
    · simp at hr

theorem length_le_flatMap {write : α → Bytes} {xs : List α}
    (h : ∀ x ∈ xs, write x ≠ []) : xs.length ≤ (xs.flatMap write).length := by
  induction xs with
  | nil => simp
  | cons x xs ih =>
    have hx := List.length_pos_iff.mpr (h x (by simp))
    have hxs := ih fun y hy => h y (by simp [hy])
    simp only [List.length_cons, List.flatMap_cons, List.length_append]
    omega

/-- A number of items, refused if it is larger than the number of bytes left, and what depends on
it. -/
def counted (refuse : UInt32 → Nat → DecodeFault) (f : UInt32 → Decoder β) : Decoder β := do
  let count ← u32
  let left ← remaining
  if left < count.toNat then fail (refuse count left) else f count

/-- No list is refused whose items are all written as something. -/
theorem reads_counted (refuse : UInt32 → Nat → DecodeFault) {f : UInt32 → Decoder β}
    {write : α → Bytes} {xs : List α} (more : Bytes) {b : β} (hlen : xs.length < 2 ^ 32)
    (hne : ∀ x ∈ xs, write x ≠ [])
    (h : ∀ n, n.toNat = xs.length → Reads (f n) (xs.flatMap write ++ more) b) :
    Reads (counted refuse f) (Encode.length xs.length ++ (xs.flatMap write ++ more)) b := by
  have hcount : (UInt32.ofNat xs.length).toNat = xs.length := by
    simpa using Nat.mod_eq_of_lt hlen
  intro rest pos
  have hle : ¬ (xs.flatMap write ++ more ++ rest).length < (UInt32.ofNat xs.length).toNat := by
    have := length_le_flatMap hne
    rw [hcount, List.length_append, List.length_append]
    omega
  rw [List.append_assoc]
  refine bind_ok_iff.mpr ⟨_, _, reads_u32 _ _ _, bind_ok_iff.mpr ⟨_, _, rfl, ?_⟩⟩
  rw [if_neg hle, h _ hcount]
  simp [Encode.length, Nat.add_assoc]

theorem counted_ok (refuse : UInt32 → Nat → DecodeFault) {f : UInt32 → Decoder β} {r r' : Reader}
    {b : β} (h : counted refuse f r = .ok b r') :
    ∃ count s, f count s = .ok b r' ∧
      (Varint.encodeU32 count).length + s.rest.length ≤ r.rest.length := by
  obtain ⟨count, s, hc, h⟩ := bind_ok_iff.mp h
  obtain ⟨left, t, ht, h⟩ := bind_ok_iff.mp h
  obtain ⟨-, rfl⟩ : s.rest.length = left ∧ s = t := by simpa [remaining] using ht
  split at h
  · simp at h
  · exact ⟨count, s, h, spends_u32 _ _ _ hc⟩

/-- A list is read back if it can be counted and no item is written as nothing. -/
theorem reads_vector {item : Nat → Decoder α} {write : α → Bytes} {xs : List α}
    (hlen : xs.length < 2 ^ 32) (hne : ∀ x ∈ xs, write x ≠ [])
    (h : ∀ x ∈ xs, ∀ i, Reads (item i) (write x) x) :
    Reads (vector item) (Encode.vector write xs) xs := by
  have hitems (n : UInt32) (hn : n.toNat = xs.length) :
      Reads (items item n.toNat) (xs.flatMap write ++ []) xs := by
    rw [hn, List.append_nil]
    exact reads_items h
  have hread := reads_counted (fun n left => .vectorLength n.toNat left) [] hlen hne hitems
  rwa [List.append_nil] at hread

/-- What holds of all items that are read holds of the items of a list that is read. -/
theorem vector_ok {item : Nat → Decoder α} {write : α → Bytes} {P : α → Prop}
    (h : ∀ i r a r', item i r = .ok a r' →
      P a ∧ (write a).length + r'.rest.length ≤ r.rest.length)
    {xs : List α} {r r' : Reader} (hr : vector item r = .ok xs r') :
    (∀ x ∈ xs, P x) ∧ xs.length < 2 ^ 32 ∧
      (Encode.vector write xs).length + r'.rest.length ≤ r.rest.length := by
  obtain ⟨count, s, hs, hspent⟩ := counted_ok _ hr
  obtain ⟨_, rfl, hlen, hys, hle⟩ := itemsFrom_ok h hs
  have hcount : UInt32.ofNat xs.length = count := by rw [hlen]; simp
  refine ⟨hys, ?_, ?_⟩
  · rw [hlen]
    exact count.toNat_lt
  · simp only [Encode.vector, Encode.length, hcount, List.length_append]
    omega

theorem reads_name {s : String} (h : (Bytes.ofString s).length < 2 ^ 32) :
    Reads name (Encode.name s) s := by
  have hcount : (UInt32.ofNat (Bytes.ofString s).length).toNat = (Bytes.ofString s).length := by
    simpa using Nat.mod_eq_of_lt h
  intro rest pos
  unfold name Encode.name Encode.sized Encode.length
  rw [bind_ok_iff, List.append_assoc]
  refine ⟨_, _, reads_u32 _ _ _, ?_⟩
  rw [bind_ok_iff]
  refine ⟨_, _, rfl, ?_⟩
  rw [bind_ok_iff, hcount]
  refine ⟨_, _, reads_bytes _ _ _, ?_⟩
  rw [toString?_eq_some_iff.mpr rfl]
  simp [Nat.add_assoc]

theorem name_ok {r r' : Reader} {s : String} (h : name r = .ok s r') :
    (Bytes.ofString s).length < 2 ^ 32 ∧
      (Encode.name s).length + r'.rest.length ≤ r.rest.length := by
  unfold name at h
  obtain ⟨n, r₁, hn, h⟩ := bind_ok_iff.mp h
  obtain ⟨start, r₂, hp, h⟩ := bind_ok_iff.mp h
  obtain ⟨-, rfl⟩ : r₁.pos = start ∧ r₁ = r₂ := by simpa [position] using hp
  obtain ⟨b, r₃, hb, h⟩ := bind_ok_iff.mp h
  obtain ⟨hrest, hlen⟩ := bytes_ok hb
  have hspent := spends_u32 _ _ _ hn
  cases ht : Bytes.toString? b with
  | none => simp [ht] at h
  | some t =>
    rw [ht] at h
    obtain ⟨rfl, rfl⟩ := pure_ok_iff.mp h
    obtain rfl := toString?_eq_some_iff.mp ht
    have hcount : UInt32.ofNat (Bytes.ofString t).length = n := by rw [hlen]; simp
    refine ⟨by rw [hlen]; exact n.toNat_lt, ?_⟩
    simp only [Encode.name, Encode.sized, Encode.length, hcount, List.length_append]
    rw [hrest, List.length_append] at hspent
    omega

end Decoder
end TapeWasm.Wasm
