import TapeWasm.Proofs.Codec.Module

/-!
The normal form of a module's bytes. Writing what was read gives the shortest bytes that are read as
the same module: numbers take the fewest bytes, no section is empty, and the custom sections stand
last in the order in which they were read.
-/
namespace TapeWasm.Wasm

/-- Sections with rising numbers above a bound, none of them a list without items, which is written
as the one byte 0. The start section holds one index and no list. -/
inductive Encode.Rising : UInt8 → Bytes → Prop
  | nil (bound : UInt8) : Rising bound []
  | frame {bound id : UInt8} {payload rest : Bytes} (hid : bound < id)
      (hitems : id = SectionId.start ∨ payload ≠ [0]) (hrest : Rising id rest) :
      Rising bound (Encode.frame id payload ++ rest)

namespace Encode.Rising

theorem weaken {bound bound' : UInt8} {b : Bytes} (hle : bound' ≤ bound) (h : Rising bound b) :
    Rising bound' b := by
  cases h with
  | nil => exact .nil bound'
  | frame hid hitems hrest => exact .frame (UInt8.lt_of_le_of_lt hle hid) hitems hrest

theorem vectorSection (write : α → Bytes) {bound id : UInt8} {rest : Bytes} (hid : bound < id)
    (hne : ∀ x, write x ≠ []) (xs : List α) (h : Rising id rest) :
    Rising bound (Encode.vectorSection id write xs ++ rest) := by
  unfold Encode.vectorSection
  cases xs with
  | nil => exact h.weaken (UInt8.le_of_lt hid)
  | cons x xs =>
    refine .frame hid (.inr ?_) h
    -- The number of items takes a byte and the first item one more.
    intro he
    have hlen := congrArg List.length he
    have hcount := List.length_pos_iff.mpr
      (Varint.encodeU32_ne_nil (UInt32.ofNat (x :: xs).length))
    have hitem := List.length_pos_iff.mpr (hne x)
    rw [Encode.vector, Encode.length, List.length_append, List.flatMap_cons,
      List.length_append, List.length_singleton] at hlen
    omega

theorem start {bound : UInt8} {rest : Bytes} (hbound : bound < SectionId.start)
    (i : Option UInt32) (h : Rising SectionId.start rest) :
    Rising bound ((match i with
      | none => []
      | some i => Encode.frame SectionId.start (Varint.encodeU32 i)) ++ rest) := by
  cases i with
  | none => exact h.weaken (UInt8.le_of_lt hbound)
  | some i => exact .frame hbound (.inl rfl) h

end Encode.Rising

/-- The sections of a module, and after them its custom sections. -/
theorem Module.encode_sections (m : Module) :
    ∃ sections, m.encode = magic ++ version ++ sections ++ m.customs.flatMap Encode.custom ∧
      Encode.Rising 0 sections := by
  have hdata := Encode.Rising.vectorSection Encode.dataSegment
    (by decide : SectionId.bodies < SectionId.data)
    (fun d => by simp [Encode.dataSegment, Encode.sized_ne_nil]) m.data (.nil _)
  have hbodies := Encode.Rising.vectorSection Encode.body
    (by decide : SectionId.start < SectionId.bodies)
    (fun _ => Encode.sized_ne_nil _) m.bodies hdata
  have hstart := Encode.Rising.start (by decide : SectionId.exports < _) m.start hbodies
  have hexports := Encode.Rising.vectorSection Encode.exportEntry
    (by decide : SectionId.globals < SectionId.exports)
    (fun e => by simp [Encode.exportEntry]) m.exports hstart
  have hglobals := Encode.Rising.vectorSection Encode.globalVar
    (by decide : SectionId.memories < SectionId.globals)
    (fun g => by simp [Encode.globalVar, Encode.globalType]) m.globals hexports
  have hmemories := Encode.Rising.vectorSection Encode.limits
    (by decide : SectionId.funcs < SectionId.memories)
    Decode.limits_ne_nil m.memories hglobals
  have hfuncs := Encode.Rising.vectorSection Varint.encodeU32
    (by decide : SectionId.imports < SectionId.funcs)
    Varint.encodeU32_ne_nil m.funcs hmemories
  have himports := Encode.Rising.vectorSection Encode.importEntry
    (by decide : SectionId.types < SectionId.imports)
    (fun i => by simp [Encode.importEntry]) m.imports hfuncs
  have htypes := Encode.Rising.vectorSection Encode.funcType
    (by decide : 0 < SectionId.types)
    (fun t => by simp [Encode.funcType]) m.types himports
  refine ⟨_, ?_, htypes⟩
  cases hs : m.start with
  | none | some => simp [Module.encode, hs]

/-- The modules that are read are those that the format can hold. What is written of such a module
is read as the module again, and of all bytes that are read as it none are fewer. -/
theorem Module.encode_normalForm (m : Module) :
    (m.Encodable ↔ ∃ b, decode b = .ok m) ∧ (m.Encodable → decode m.encode = .ok m) ∧
      ∀ b, decode b = .ok m →
        decode m.encode = .ok m ∧ m.encode.length ≤ b.length ∧
          ∃ sections, Encode.Rising 0 sections ∧
            m.encode = magic ++ version ++ sections ++ m.customs.flatMap Encode.custom := by
  refine ⟨⟨fun h => ⟨m.encode, decode_encode h⟩, ?_⟩, decode_encode, ?_⟩
  · rintro ⟨b, hb⟩
    exact (decode_ok hb).1
  · intro b hb
    obtain ⟨hm, hle⟩ := decode_ok hb
    obtain ⟨sections, he, hrising⟩ := m.encode_sections
    exact ⟨decode_encode hm, hle, sections, hrising, he⟩

/-- A custom section in front, a list of types without items and a page count of two bytes: what is
written of the module has the page count in one byte and the custom section last. -/
theorem Module.encode_normalForm_memory :
    decode (magic ++ version ++
        [0, 3, 1, 97, 42, SectionId.types, 1, 0, SectionId.memories, 4, 1, 0, 0x81, 0]) =
      .ok { memories := [⟨1, none⟩], customs := [⟨"a", [42]⟩] } ∧
    Module.encode { memories := [⟨1, none⟩], customs := [⟨"a", [42]⟩] } =
      magic ++ version ++ [SectionId.memories, 3, 1, 0, 1, 0, 3, 1, 97, 42] ∧
    decode (Module.encode { memories := [⟨1, none⟩], customs := [⟨"a", [42]⟩] }) =
      .ok { memories := [⟨1, none⟩], customs := [⟨"a", [42]⟩] } := by
  refine ⟨rfl, by decide +kernel, ?_⟩
  exact ((encode_normalForm _).2.2 (magic ++ version ++
    [0, 3, 1, 97, 42, SectionId.types, 1, 0, SectionId.memories, 4, 1, 0, 0x81, 0]) rfl).1

end TapeWasm.Wasm
