import TapeWasm.Proofs.Codec.Module

/-!
Bytes that were cut. A length that does not fit its field is written modulo the size of the field,
so a reader takes a part of the payload for the whole and the rest for sections of its own. Here is
what follows of the bytes when such a reading succeeds.
-/
namespace TapeWasm.Wasm

theorem Varint.takeU32_append {b : Bytes} {t : Taken UInt32} (h : takeU32 b = .ok t)
    (more : Bytes) : takeU32 (b ++ more) = .ok ⟨t.value, t.used, t.rest ++ more⟩ := by
  rw [takeU32_eq] at h
  obtain ⟨v, hv, rfl, hlim, hused, hvalue⟩ :=
    exists_isVarint_of_map_number (f := fun v => UInt32.ofNat (payload v)) h
  rw [takeU32_eq, List.append_assoc, number_of_isVarint hv hlim, hused, hvalue]
  rfl

namespace Decoder

/-- A number that is read from the front of cut bytes is the number that was written there. -/
theorem u32_of_cut {r r' : Reader} {v w : UInt32} {b more : Bytes} (h : u32 r = .ok v r')
    (hcut : r.rest ++ more = Varint.encodeU32 w ++ b) : v = w ∧ r'.rest ++ more = b := by
  obtain ⟨t, ht, rfl, hrest⟩ := varint_ok h
  have hwhole := Varint.takeU32_encodeU32 w b
  rw [← hcut, Varint.takeU32_append ht] at hwhole
  obtain ⟨hvalue, -, hleft⟩ : t.value = w ∧ _ ∧ t.rest ++ more = b := by simpa using hwhole
  exact ⟨hvalue, hrest ▸ hleft⟩

theorem u32_small {b : UInt8} (hb : b < 128) (rest : Bytes) (pos : Nat) :
    u32 ⟨b :: rest, pos⟩ = .ok b.toUInt32 ⟨rest, pos + 1⟩ := by
  have hlt : b.toNat < 128 := UInt8.lt_iff_toNat_lt.mp hb
  have hnumber : Varint.number (Varint.byteLimit 32) (b :: rest) = .ok ([b], rest) :=
    Varint.number_of_isVarint (.last hlt) (by decide : 1 ≤ 5) rest
  simp [u32, varint, Varint.takeU32_eq, hnumber, Except.map, Varint.payload, Nat.mod_eq_of_lt hlt]

theorem vector_parts {item : Nat → Decoder α} {xs : List α} {r r' : Reader}
    (h : vector item r = .ok xs r') :
    ∃ count s, u32 r = .ok count s ∧ count.toNat ≤ s.rest.length ∧
      items item count.toNat s = .ok xs r' := by
  obtain ⟨count, s, hcount, h⟩ := bind_ok_iff.mp h
  obtain ⟨left, t, hleft, h⟩ := bind_ok_iff.mp h
  obtain ⟨rfl, rfl⟩ : s.rest.length = left ∧ s = t := by simpa [remaining] using hleft
  split at h
  · simp at h
  · rename_i hle
    exact ⟨count, s, hcount, Nat.not_lt.mp hle, h⟩

theorem items_succ_ok {item : Nat → Decoder α} {n : Nat} {xs : List α} {r r' : Reader}
    (h : items item (n + 1) r = .ok xs r') : ∃ a s, item 0 r = .ok a s := by
  rw [items, itemsFrom] at h
  split at h
  · rename_i a s hs
    exact ⟨a, s, hs⟩
  · cases h

end Decoder

namespace Decode

open Decoder

theorem sectionContents_vector {id : UInt8} {title : String} {item : Nat → Decoder α}
    {f : List α → Module} {payload : Bytes} {m m' : Module} (hid : id ≠ SectionId.custom)
    (hd : sectionDecoder? id m = some (title, do return f (← vector item)))
    (h : sectionContents id payload m = .ok m') :
    ∃ xs r, vector item ⟨payload, 0⟩ = .ok xs r ∧ r.rest = [] := by
  obtain ⟨title', d, r, hd', hr, hused⟩ := sectionContents_ok h
  obtain ⟨-, rfl⟩ := Prod.mk.inj (Option.some.inj (hd.symm.trans hd'))
  obtain ⟨xs, r₁, hxs, hr⟩ := bind_ok_iff.mp hr
  obtain ⟨-, rfl⟩ := pure_ok_iff.mp hr
  exact ⟨xs, r₁, hxs, hused hid⟩

/-- Sections that were read start with one that was. -/
theorem sectionsFrom_ok {fuel : Nat} {r : Reader} {last : UInt8} {m m' : Module}
    (h : sectionsFrom (fuel + 1) r last m = .ok m') (hr : r.rest ≠ []) :
    ∃ id payload r' m₁, sectionFrame last r = .ok (id, payload) r' ∧
      sectionContents id payload m = .ok m₁ ∧
      sectionsFrom fuel r' (if id = SectionId.custom then last else id) m₁ = .ok m' := by
  rw [sectionsFrom] at h
  split at h
  · contradiction
  · split at h
    · simp at h
    · rename_i id payload r' hframe
      split at h
      · simp at h
      · rename_i m₁ hm₁
        exact ⟨id, payload, r', m₁, hframe, hm₁, h⟩

theorem sectionsFrom_vectorSection {id : UInt8} {title : String} {item : Nat → Decoder α}
    {write : α → Bytes} {P : α → Prop} {xs : List α} {f : List α → Module}
    (hd : sectionDecoder? id (f []) = some (title, do return f (← vector item)))
    (hxs : Encode.Fits write P xs) (hnil : xs ≠ []) (hne : ∀ x, write x ≠ [])
    (hread : ∀ x, P x → ∀ i, Reads (item i) (write x) x) {last : UInt8} (hid : last < id)
    (fuel pos : Nat) (rest : Bytes) :
    sectionsFrom (fuel + 1) ⟨Encode.vectorSection id write xs ++ rest, pos⟩ last (f []) =
      sectionsFrom fuel ⟨rest, pos + (Encode.vectorSection id write xs).length⟩ id (f xs) := by
  have hcustom : id ≠ SectionId.custom := by
    rintro rfl
    exact absurd hid (UInt8.not_lt.mpr UInt8.zero_le)
  have hvector := (hxs.reads hne hread).map f [] 0
  rw [List.append_nil] at hvector
  have hsection : Encode.vectorSection id write xs = Encode.frame id (Encode.vector write xs) := by
    simp [Encode.vectorSection, hnil]
  have h := sectionsFrom_frame hxs.size (.inr hid) (sectionContents_eq hd hvector rfl) fuel pos rest
  rwa [if_neg hcustom, ← hsection] at h

end Decode
end TapeWasm.Wasm
