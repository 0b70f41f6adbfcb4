import TapeWasm.Proofs.Codec.Decoder
import TapeWasm.Wasm.Instr.Decode

/-!
Instructions and their bytes: every list of well-shaped instructions is read back from its written
form, and every list that is read has that form and is written in no more bytes.
-/
namespace TapeWasm.Wasm

def Immediate.Countable : Immediate → Prop
  | .table ls _ => ls.length < 2 ^ 32
  | _ => True

/-- An instruction that the decoder can give: the immediate fits the opcode. -/
structure Instr.Encodable (i : Instr) : Prop where
  wellShaped : i.WellShaped
  countable : i.imm.Countable

namespace Instr

open Decoder

theorem imm_of_bare {op : UInt8} {imm : Immediate} (hop : shape? op = some .bare)
    (h : WellShaped ⟨op, imm⟩) : imm = .none := by
  have hshape : shape? op = some imm.shape := h
  rw [hop] at hshape
  cases imm <;> first | rfl | cases hshape

/-- Only a branch table has anything to count. -/
theorem WellShaped.encodable {i : Instr} (h : i.WellShaped) (hop : i.op ≠ Op.brTable) :
    i.Encodable := by
  refine ⟨h, ?_⟩
  obtain ⟨op, imm⟩ := i
  cases imm with
  | table ls d =>
    have hshape : shape? op = some .table := h
    unfold shape? at hshape
    split at hshape <;> try cases hshape
    · exact absurd rfl hop
    · split at hshape
      · cases hshape
      · split at hshape <;> cases hshape
  | _ => trivial

theorem reads_tableImmediate {ls : List UInt32} (d : UInt32) (h : ls.length < 2 ^ 32) :
    Reads tableImmediate (Immediate.table ls d).encode (.table ls d) := by
  rw [Immediate.encode, List.append_assoc]
  refine reads_counted (fun n _ => .tableCount n.toNat) _ h
    (fun x _ => Varint.encodeU32_ne_nil x) fun n hn => ?_
  rw [hn]
  exact (reads_items fun x _ _ => reads_u32 x).bind ((reads_u32 d).map _)

theorem reads_memArg (a : MemArg) :
    Reads memArg (Varint.encodeU32 a.align ++ Varint.encodeU32 a.offset) a :=
  (reads_u32 a.align).bind ((reads_u32 a.offset).map _)

theorem reads_immediate {imm : Immediate} (h : imm.Countable) :
    Reads (immediate imm.shape) imm.encode imm := by
  cases imm with
  | none => exact Reads.pure _
  | block t => exact (reads_s32 t).map _
  | branch l => exact (reads_u32 l).map _
  | table ls d => exact reads_tableImmediate d h
  | call f => exact (reads_u32 f).map _
  | localVar i => exact (reads_u32 i).map _
  | globalVar i => exact (reads_u32 i).map _
  | memory a => exact (reads_memArg a).map _
  | memoryIndex i => exact (reads_u32 i).map _
  | i32 v => exact (reads_s32 v).map _
  | i64 v => exact (reads_s64 v).map _

theorem reads_decodeOne {i : Instr} (h : i.Encodable) : Reads decodeOne i.encode i := by
  intro rest pos
  have himm := ((reads_immediate h.countable).within (.opcode i.op pos)) rest (pos + 1)
  unfold decodeOne
  refine bind_ok_iff.mpr ⟨pos, _, rfl, ?_⟩
  refine bind_ok_iff.mpr ⟨i.op, ⟨i.imm.encode ++ rest, pos + 1⟩, rfl, ?_⟩
  rw [show shape? i.op = some i.imm.shape from h.wellShaped]
  refine bind_ok_iff.mpr ⟨i.imm, _, himm, ?_⟩
  rw [pure_ok_iff]
  simp [encode, Nat.add_assoc, Nat.add_comm]

theorem tableImmediate_ok {r r' : Reader} {imm : Immediate} (h : tableImmediate r = .ok imm r') :
    imm.shape = .table ∧ imm.Countable ∧ imm.encode.length + r'.rest.length ≤ r.rest.length := by
  obtain ⟨n, r₁, h, hn⟩ := counted_ok (fun n _ => .tableCount n.toNat) h
  obtain ⟨ls, r₂, hls, h⟩ := bind_ok_iff.mp h
  obtain ⟨d, r₃, hd, h⟩ := bind_ok_iff.mp h
  obtain ⟨rfl, rfl⟩ := pure_ok_iff.mp h
  obtain ⟨_, rfl, hlen, -, hle⟩ := itemsFrom_ok (P := fun _ => True)
    (fun _ r a r' ha => ⟨trivial, spends_u32 r a r' ha⟩) hls
  have hd := spends_u32 _ _ _ hd
  have hcount : UInt32.ofNat ls.length = n := by rw [hlen]; simp
  refine ⟨rfl, by rw [Immediate.Countable, hlen]; exact n.toNat_lt, ?_⟩
  simp only [Immediate.encode, hcount, List.length_append]
  omega

private theorem map_ok {d : Decoder α} {f : α → Immediate} {write : α → Bytes} {s : Shape}
    {r r' : Reader} {imm : Immediate}
    (h : (do return f (← d) : Decoder Immediate) r = .ok imm r') (hd : Spends d write)
    (hf : ∀ a, (f a).shape = s ∧ (f a).Countable ∧ (f a).encode = write a) :
    imm.shape = s ∧ imm.Countable ∧ imm.encode.length + r'.rest.length ≤ r.rest.length := by
  obtain ⟨a, s', ha, h⟩ := bind_ok_iff.mp h
  obtain ⟨rfl, rfl⟩ := pure_ok_iff.mp h
  obtain ⟨hs, hc, he⟩ := hf a
  exact ⟨hs, hc, he ▸ hd _ _ _ ha⟩

theorem spends_memArg :
    Spends memArg fun a => Varint.encodeU32 a.align ++ Varint.encodeU32 a.offset := by
  intro r a r' h
  obtain ⟨align, r₁, ha, h⟩ := bind_ok_iff.mp h
  obtain ⟨offset, r₂, ho, h⟩ := bind_ok_iff.mp h
  obtain ⟨rfl, rfl⟩ := pure_ok_iff.mp h
  have ha' := spends_u32 _ _ _ ha
  have ho' := spends_u32 _ _ _ ho
  simp only [List.length_append]
  omega

theorem immediate_ok {s : Shape} {r r' : Reader} {imm : Immediate}
    (h : immediate s r = .ok imm r') :
    imm.shape = s ∧ imm.Countable ∧ imm.encode.length + r'.rest.length ≤ r.rest.length := by
  cases s with
  | bare =>
    obtain ⟨rfl, rfl⟩ := pure_ok_iff.mp h
    exact ⟨rfl, trivial, by simp [Immediate.encode]⟩
  | block => exact map_ok h spends_s32 fun _ => ⟨rfl, trivial, rfl⟩
  | branch => exact map_ok h spends_u32 fun _ => ⟨rfl, trivial, rfl⟩
  | table => exact tableImmediate_ok h
  | call => exact map_ok h spends_u32 fun _ => ⟨rfl, trivial, rfl⟩
  | localVar => exact map_ok h spends_u32 fun _ => ⟨rfl, trivial, rfl⟩
  | globalVar => exact map_ok h spends_u32 fun _ => ⟨rfl, trivial, rfl⟩
  | memory => exact map_ok h spends_memArg fun _ => ⟨rfl, trivial, rfl⟩
  | memoryIndex => exact map_ok h spends_u32 fun _ => ⟨rfl, trivial, rfl⟩
  | i32 => exact map_ok h spends_s32 fun _ => ⟨rfl, trivial, rfl⟩
  | i64 => exact map_ok h spends_s64 fun _ => ⟨rfl, trivial, rfl⟩

theorem decodeOne_ok {r r' : Reader} {i : Instr} (h : decodeOne r = .ok i r') :
    i.Encodable ∧ i.encode.length + r'.rest.length ≤ r.rest.length := by
  unfold decodeOne at h
  obtain ⟨offset, r₁, hp, h⟩ := bind_ok_iff.mp h
  obtain ⟨-, rfl⟩ : r.pos = offset ∧ r = r₁ := by simpa [position] using hp
  obtain ⟨op, r₂, hop, h⟩ := bind_ok_iff.mp h
  cases hs : shape? op with
  | none => simp [hs] at h
  | some s =>
    rw [hs] at h
    obtain ⟨imm, r₃, himm, h⟩ := bind_ok_iff.mp h
    obtain ⟨rfl, rfl⟩ := pure_ok_iff.mp h
    obtain ⟨rfl, hc, hle⟩ := immediate_ok (within_ok_iff.mp himm)
    refine ⟨⟨hs, hc⟩, ?_⟩
    simp only [encode, byte_ok hop, List.length_cons]
    omega

theorem encode_ne_nil (i : Instr) : i.encode ≠ [] := by simp [encode]

theorem length_le_length_encodeAll (is : List Instr) : is.length ≤ (encodeAll is).length := by
  induction is with
  | nil => simp
  | cons i is ih =>
    have := List.length_pos_iff.mpr i.encode_ne_nil
    simp only [List.length_cons, encodeAll_cons, List.length_append]
    omega

theorem decodeFrom_encodeAll {is : List Instr} (h : ∀ i ∈ is, i.Encodable) (fuel pos : Nat)
    (acc : List Instr) (hfuel : is.length ≤ fuel) :
    decodeFrom fuel ⟨encodeAll is, pos⟩ acc = .ok (acc.reverse ++ is) := by
  induction is generalizing fuel pos acc with
  | nil => cases fuel <;> simp [decodeFrom]
  | cons i is ih =>
    obtain ⟨n, rfl⟩ : ∃ n, fuel = n + 1 := ⟨fuel - 1, by simp at hfuel; omega⟩
    have hi := reads_decodeOne (h i (by simp)) (encodeAll is) pos
    have his := ih (fun j hj => h j (by simp [hj])) n (pos + i.encode.length) (i :: acc)
      (by simpa using hfuel)
    have hcons : i.encode ++ encodeAll is = i.op :: (i.imm.encode ++ encodeAll is) := rfl
    rw [hcons] at hi
    rw [encodeAll_cons, hcons, decodeFrom, hi]
    simp [his]

/-- Well-shaped instructions are read back from their bytes. -/
theorem decodeAll_encodeAll {is : List Instr} (h : ∀ i ∈ is, i.Encodable) :
    decodeAll (encodeAll is) = .ok is := by
  simpa [decodeAll] using decodeFrom_encodeAll h _ 0 [] (length_le_length_encodeAll is)

theorem decodeFrom_ok {fuel : Nat} {r : Reader} {acc is : List Instr}
    (h : decodeFrom fuel r acc = .ok is) :
    ∃ js, is = acc.reverse ++ js ∧ (∀ j ∈ js, j.Encodable) ∧
      (encodeAll js).length ≤ r.rest.length := by
  induction fuel generalizing r acc with
  | zero =>
    obtain rfl : acc.reverse = is := by simpa [decodeFrom] using h
    exact ⟨[], by simp⟩
  | succ fuel ih =>
    rw [decodeFrom] at h
    split at h
    · obtain rfl : acc.reverse = is := by simpa using h
      exact ⟨[], by simp⟩
    · split at h
      · rename_i i r' hi
        obtain ⟨henc, hle⟩ := decodeOne_ok hi
        obtain ⟨js, rfl, hjs, hlen⟩ := ih h
        refine ⟨i :: js, by simp, by simpa using ⟨henc, hjs⟩, ?_⟩
        simp only [encodeAll_cons, List.length_append]
        omega
      · simp at h

/-- Instructions that are read are well shaped, and written in no more bytes. -/
theorem decodeAll_ok {b : Bytes} {is : List Instr} (h : decodeAll b = .ok is) :
    (∀ i ∈ is, i.Encodable) ∧ (encodeAll is).length ≤ b.length := by
  obtain ⟨js, rfl, hjs, hle⟩ := decodeFrom_ok h
  simpa using ⟨hjs, hle⟩

end Instr
end TapeWasm.Wasm
