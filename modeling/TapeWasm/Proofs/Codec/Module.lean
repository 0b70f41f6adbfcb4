import TapeWasm.Proofs.Codec.Entry

/-!
Modules and their bytes. A module that the format can hold is read back from what is written of it,
and what is read can be held by the format and takes no more bytes than it was read from.
-/
namespace TapeWasm.Wasm

/-- Items that the format can hold in one section. -/
structure Encode.Fits (write : α → Bytes) (P : α → Prop) (xs : List α) : Prop where
  items : ∀ x ∈ xs, P x
  size : (Encode.vector write xs).length < 2 ^ 32

structure Module.Encodable (m : Module) : Prop where
  types : Encode.Fits Encode.funcType FuncType.Encodable m.types
  imports : Encode.Fits Encode.importEntry Import.Encodable m.imports
  funcs : Encode.Fits Varint.encodeU32 (fun _ => True) m.funcs
  memories : Encode.Fits Encode.limits (fun _ => True) m.memories
  globals : Encode.Fits Encode.globalVar Global.Encodable m.globals
  exports : Encode.Fits Encode.exportEntry Export.Encodable m.exports
  bodies : Encode.Fits Encode.body Body.Encodable m.bodies
  data : Encode.Fits Encode.dataSegment DataSegment.Encodable m.data
  customs : ∀ c ∈ m.customs, c.Encodable

theorem Encode.Fits.nil {write : α → Bytes} {P : α → Prop} : Fits write P [] :=
  ⟨by simp, by simp [vector, Encode.length, Varint.encodeU32]⟩

theorem Module.encodable_empty : Module.Encodable {} :=
  ⟨.nil, .nil, .nil, .nil, .nil, .nil, .nil, .nil, by simp⟩

/-- The items of a section take no more bytes than the section, which is left out if it is empty. -/
theorem Encode.length_vector_le (id : UInt8) (write : α → Bytes) (xs : List α) :
    (vector write xs).length ≤ (vectorSection id write xs).length + 1 := by
  cases xs with
  | nil => simp [vector, Encode.length, Varint.encodeU32]
  | cons x xs =>
    simp only [vectorSection, List.isEmpty_cons, Bool.false_eq_true, if_false, frame, sized,
      List.length_cons, List.length_append]
    omega

namespace Module

theorem length_bodies_le (m : Module) :
    (Encode.vector Encode.body m.bodies).length ≤ m.encode.length := by
  have h := Encode.length_vector_le SectionId.bodies Encode.body m.bodies
  simp only [encode, List.length_append, magic, List.length_cons]
  omega

/-- Entries that can be written one by one can be written together if the module stays short. -/
theorem encodable_of_length {m : Module} (hsize : m.encode.length < 2 ^ 32)
    (types : ∀ t ∈ m.types, t.Encodable) (imports : ∀ i ∈ m.imports, i.Encodable)
    (globals : ∀ g ∈ m.globals, g.Encodable) (exports : ∀ e ∈ m.exports, e.Encodable)
    (bodies : ∀ b ∈ m.bodies, b.Encodable) (data : ∀ d ∈ m.data, d.Encodable)
    (customs : ∀ c ∈ m.customs, c.Encodable) : m.Encodable := by
  have htypes := Encode.length_vector_le SectionId.types Encode.funcType m.types
  have himports := Encode.length_vector_le SectionId.imports Encode.importEntry m.imports
  have hfuncs := Encode.length_vector_le SectionId.funcs Varint.encodeU32 m.funcs
  have hmemories := Encode.length_vector_le SectionId.memories Encode.limits m.memories
  have hglobals := Encode.length_vector_le SectionId.globals Encode.globalVar m.globals
  have hexports := Encode.length_vector_le SectionId.exports Encode.exportEntry m.exports
  have hbodies := Encode.length_vector_le SectionId.bodies Encode.body m.bodies
  have hdata := Encode.length_vector_le SectionId.data Encode.dataSegment m.data
  simp only [encode, List.length_append, magic, List.length_cons] at hsize
  exact
    { types := ⟨types, by omega⟩
      imports := ⟨imports, by omega⟩
      funcs := ⟨fun _ _ => trivial, by omega⟩
      memories := ⟨fun _ _ => trivial, by omega⟩
      globals := ⟨globals, by omega⟩
      exports := ⟨exports, by omega⟩
      bodies := ⟨bodies, by omega⟩
      data := ⟨data, by omega⟩
      customs }

end Module

theorem Encode.Fits.reads {write : α → Bytes} {P : α → Prop} {item : Nat → Decoder α}
    {xs : List α} (hxs : Fits write P xs) (hne : ∀ x, write x ≠ [])
    (h : ∀ x, P x → ∀ i, Decoder.Reads (item i) (write x) x) :
    Decoder.Reads (Decoder.vector item) (vector write xs) xs := by
  have hlen : xs.length < 2 ^ 32 := by
    have hle := Decoder.length_le_flatMap fun (x : α) (_ : x ∈ xs) => hne x
    have hsize := hxs.size
    simp only [vector, List.length_append] at hsize
    omega
  exact Decoder.reads_vector hlen (fun x _ => hne x) fun x hx i => h x (hxs.items x hx) i

namespace Decode

open Decoder

theorem reads_sectionFrame {id last : UInt8} {payload : Bytes} (hlen : payload.length < 2 ^ 32)
    (hid : id = SectionId.custom ∨ last < id) :
    Reads (sectionFrame last) (Encode.frame id payload) (id, payload) := by
  have hcount : (UInt32.ofNat payload.length).toNat = payload.length := by
    simpa using Nat.mod_eq_of_lt hlen
  have hframed {α : Type} {d : Decoder α} {b : Bytes} {a : α} (part : String) (h : Reads d b a) :
      Reads (framed part d) b a := fun rest pos => framed_ok_iff.mpr (h rest pos)
  refine (hframed _ (reads_byte id)).bind ?_
  rw [if_neg]
  · refine (hframed _ (reads_u32 _)).bind ?_
    rw [hcount]
    exact (hframed _ (reads_bytes payload)).map _
  · rintro ⟨hne, hle⟩
    exact hid.elim hne (UInt8.not_lt.mpr hle)

/-- The parts of a section that was read. -/
theorem sectionFrame_parts {last id : UInt8} {payload : Bytes} {r r' : Reader}
    (h : sectionFrame last r = .ok (id, payload) r') :
    ∃ size r₁ r₂, r.rest = id :: r₁.rest ∧ (id = SectionId.custom ∨ last < id) ∧
      u32 r₁ = .ok size r₂ ∧ r₂.rest = payload ++ r'.rest ∧ payload.length = size.toNat := by
  obtain ⟨id', r₁, hid, h⟩ := bind_ok_iff.mp h
  split at h
  · simp at h
  · rename_i horder
    obtain ⟨size, r₂, hsize, h⟩ := bind_ok_iff.mp h
    obtain ⟨payload', r₃, hpayload, h⟩ := bind_ok_iff.mp h
    obtain ⟨⟨rfl, rfl⟩, rfl⟩ : (id' = id ∧ payload' = payload) ∧ r₃ = r' := by
      simpa using pure_ok_iff.mp h
    obtain ⟨hrest, hlength⟩ := bytes_ok (framed_ok_iff.mp hpayload)
    refine ⟨size, r₁, r₂, byte_ok (framed_ok_iff.mp hid), ?_, framed_ok_iff.mp hsize, hrest,
      hlength⟩
    by_cases hcustom : id' = SectionId.custom
    · exact .inl hcustom
    · exact .inr (UInt8.not_le.mp fun hle => horder ⟨hcustom, hle⟩)

theorem sectionFrame_ok {last id : UInt8} {payload : Bytes} {r r' : Reader}
    (h : sectionFrame last r = .ok (id, payload) r') :
    payload.length < 2 ^ 32 ∧
      (Encode.frame id payload).length + r'.rest.length ≤ r.rest.length := by
  obtain ⟨size, r₁, r₂, hid, -, hsize, hrest, hlen⟩ := sectionFrame_parts h
  have hspent := spends_u32 _ _ _ hsize
  have hcount : UInt32.ofNat payload.length = size := by rw [hlen]; simp
  refine ⟨by rw [hlen]; exact size.toNat_lt, ?_⟩
  rw [hrest, List.length_append] at hspent
  rw [hid]
  simp only [Encode.frame, Encode.sized, Encode.length, hcount, List.length_cons,
    List.length_append]
  omega

theorem sectionContents_eq {id : UInt8} {title : String} {d : Decoder Module} {payload : Bytes}
    {m m' : Module} {r : Reader} (hd : sectionDecoder? id m = some (title, d))
    (h : d ⟨payload, 0⟩ = .ok m' r) (hr : r.rest = []) :
    sectionContents id payload m = .ok m' := by
  rw [sectionContents, hd]
  simp only [h, hr]
  simp

/-- A section that is not custom is used up by its contents. -/
theorem sectionContents_ok {id : UInt8} {payload : Bytes} {m m' : Module}
    (h : sectionContents id payload m = .ok m') :
    ∃ title d r, sectionDecoder? id m = some (title, d) ∧ d ⟨payload, 0⟩ = .ok m' r ∧
      (id ≠ SectionId.custom → r.rest = []) := by
  unfold sectionContents at h
  split at h
  · split at h <;> simp at h
  · rename_i title d hd
    split at h
    · simp at h
    · rename_i m₁ r hm
      split at h
      · simp at h
      · rename_i hused
        obtain rfl : m₁ = m' := by simpa using h
        exact ⟨title, d, r, hd, hm, fun hid => by simpa [hid] using hused⟩

theorem sectionsFrom_frame {id last : UInt8} {payload : Bytes} {m m₁ : Module}
    (hlen : payload.length < 2 ^ 32) (hid : id = SectionId.custom ∨ last < id)
    (hm : sectionContents id payload m = .ok m₁) (fuel pos : Nat) (rest : Bytes) :
    sectionsFrom (fuel + 1) ⟨Encode.frame id payload ++ rest, pos⟩ last m =
      sectionsFrom fuel ⟨rest, pos + (Encode.frame id payload).length⟩
        (if id = SectionId.custom then last else id) m₁ := by
  have hframe := reads_sectionFrame hlen hid rest pos
  rw [sectionsFrom]
  simp only [Encode.frame, List.cons_append] at hframe ⊢
  rw [hframe]
  simp only [hm]

/-- The sections in `b` take a module to another one if the last section before them had at most
the number `bound`. -/
def Continues (b : Bytes) (bound : UInt8) (m m' : Module) : Prop :=
  ∀ fuel pos last, last ≤ bound → b.length ≤ fuel → sectionsFrom fuel ⟨b, pos⟩ last m = .ok m'

theorem Continues.nil (bound : UInt8) (m : Module) : Continues [] bound m m := by
  intro fuel pos last _ _
  cases fuel <;> rfl

theorem Continues.frame {id last bound : UInt8} {payload rest : Bytes} {m m₁ m' : Module}
    (hlen : payload.length < 2 ^ 32) (hid : id = SectionId.custom ∧ last = bound ∨
      id ≠ SectionId.custom ∧ bound < id ∧ last = id)
    (hm : sectionContents id payload m = .ok m₁) (h : Continues rest last m₁ m') :
    Continues (Encode.frame id payload ++ rest) bound m m' := by
  intro fuel pos prev hprev hfuel
  obtain ⟨n, rfl⟩ : ∃ n, fuel = n + 1 :=
    ⟨fuel - 1, by simp only [Encode.frame, List.length_append, List.length_cons] at hfuel; omega⟩
  rw [sectionsFrom_frame hlen (hid.imp And.left fun h => UInt8.lt_of_le_of_lt hprev h.2.1) hm]
  refine h _ _ _ ?_ ?_
  · split
    · rcases hid with ⟨-, rfl⟩ | ⟨hne, -⟩
      · exact hprev
      · contradiction
    · rcases hid with ⟨he, -⟩ | ⟨-, -, rfl⟩
      · contradiction
      · exact UInt8.le_refl _
  · simp only [Encode.frame, List.length_append, List.length_cons] at hfuel
    omega

/-- A section of items that are put into a field that has none. -/
theorem Continues.vectorSection {id bound : UInt8} {title : String} {item : Nat → Decoder α}
    {write : α → Bytes} {P : α → Prop} {xs : List α} {rest : Bytes} {f : List α → Module}
    {m' : Module} (hid : bound < id)
    (hd : sectionDecoder? id (f []) = some (title, do return f (← vector item)))
    (hxs : Encode.Fits write P xs) (hne : ∀ x, write x ≠ [])
    (hread : ∀ x, P x → ∀ i, Reads (item i) (write x) x)
    (h : Continues rest id (f xs) m') :
    Continues (Encode.vectorSection id write xs ++ rest) bound (f []) m' := by
  unfold Encode.vectorSection
  cases xs with
  | nil =>
    intro fuel pos last hlast
    exact h fuel pos last (UInt8.le_trans hlast (UInt8.le_of_lt hid))
  | cons x xs =>
    have hvector := (hxs.reads hne hread).map f [] 0
    rw [List.append_nil] at hvector
    have hpos : id ≠ SectionId.custom := by
      rintro rfl
      exact absurd hid (UInt8.not_lt.mpr UInt8.zero_le)
    exact .frame hxs.size (.inr ⟨hpos, hid, rfl⟩) (sectionContents_eq hd hvector rfl) h

theorem Continues.start {i : Option UInt32} {rest : Bytes} {m m' : Module} {bound : UInt8}
    (hbound : bound < SectionId.start) (hm : m.start = none) :
    Continues rest SectionId.start { m with start := i } m' →
      Continues ((match i with
        | none => []
        | some i => Encode.frame SectionId.start (Varint.encodeU32 i)) ++ rest) bound m m' := by
  intro h
  cases i with
  | none =>
    rw [← hm] at h
    intro fuel pos last hlast
    exact h fuel pos last (UInt8.le_trans hlast (UInt8.le_of_lt hbound))
  | some i =>
    have hlen := Varint.length_encodeU32_le i
    have hread := (reads_u32 i).map (fun i => { m with start := some i }) [] 0
    rw [List.append_nil] at hread
    exact .frame (by omega) (.inr ⟨by decide, hbound, rfl⟩) (sectionContents_eq rfl hread rfl) h

theorem Continues.customs {cs : List CustomSection} (bound : UInt8) (m : Module)
    (h : ∀ c ∈ cs, c.Encodable) :
    Continues (cs.flatMap Encode.custom) bound m { m with customs := m.customs ++ cs } := by
  induction cs generalizing m with
  | nil =>
    rw [List.append_nil]
    exact .nil bound m
  | cons c cs ih =>
    have hc := h c (by simp)
    have hread : (do return { m with customs := m.customs ++ [← custom] } : Decoder Module)
        ⟨Encode.name c.name ++ c.data, 0⟩ = .ok { m with customs := m.customs ++ [c] } _ :=
      bind_ok_iff.mpr ⟨_, _, custom_eq hc 0, rfl⟩
    have hcs := ih { m with customs := m.customs ++ [c] } fun d hd => h d (by simp [hd])
    rw [List.append_assoc] at hcs
    exact .frame hc.size (.inl ⟨rfl, rfl⟩) (sectionContents_eq rfl hread rfl) hcs

end Decode

open Decode Decoder

theorem Encode.sized_ne_nil (b : Bytes) : sized b ≠ [] := by
  simp [sized, Encode.length, Varint.encodeU32_ne_nil]

/-- What is written of a module is read as that module. -/
theorem Module.decode_encode {m : Module} (h : m.Encodable) : decode m.encode = .ok m := by
  have hheader : Reads header (magic ++ version) () := fun _ _ => rfl
  have hname {s : String} {b : Bytes} : Encode.name s ++ b ≠ [] := by
    simp [Encode.name, Encode.sized_ne_nil]
  simp only [decode, Module.encode, List.append_assoc]
  rw [← List.append_assoc, hheader]
  suffices hsections : Continues _ 0 {} m from
    hsections _ _ 0 (UInt8.le_refl 0) (by simp only [List.length_append]; omega)
  -- Each section fills one more field of the module.
  refine .vectorSection (f := fun xs => { types := xs }) (by decide) rfl h.types
    (by simp [Encode.funcType]) (fun _ => reads_funcType) ?_
  refine .vectorSection (f := fun xs => { types := m.types, imports := xs }) (by decide) rfl
    h.imports (fun _ => by simp [Encode.importEntry]) (fun _ hi _ => reads_importEntry hi) ?_
  refine .vectorSection (f := fun xs => { types := m.types, imports := m.imports, funcs := xs })
    (by decide) rfl h.funcs Varint.encodeU32_ne_nil (fun x _ _ => reads_u32 x) ?_
  refine .vectorSection
    (f := fun xs => { types := m.types, imports := m.imports, funcs := m.funcs, memories := xs })
    (by decide) rfl h.memories limits_ne_nil (fun l _ _ => reads_limits l) ?_
  refine .vectorSection
    (f := fun xs =>
      { m with
        globals := xs, exports := [], start := none, bodies := [], data := [], customs := [] })
    (by decide) rfl h.globals (by simp [Encode.globalVar, Encode.globalType])
    (fun _ hg _ => reads_globalVar hg) ?_
  refine .vectorSection
    (f := fun xs =>
      { m with exports := xs, start := none, bodies := [], data := [], customs := [] })
    (by decide) rfl h.exports (by simp [Encode.exportEntry]) (fun _ he _ => reads_exportEntry he) ?_
  refine .start (m := { m with start := none, bodies := [], data := [], customs := [] })
    (by decide : SectionId.exports < _) rfl ?_
  refine .vectorSection (f := fun xs => { m with bodies := xs, data := [], customs := [] })
    (by decide) rfl h.bodies (fun _ => Encode.sized_ne_nil _) (fun _ => reads_body) ?_
  refine .vectorSection (f := fun xs => { m with data := xs, customs := [] }) (by decide) rfl
    h.data (fun _ => by simp [Encode.dataSegment, Encode.sized_ne_nil])
    (fun _ => reads_dataSegment) ?_
  exact .customs SectionId.data { m with customs := [] } h.customs

/-- A field filled from a section holds what the format can hold, in at most as many bytes. -/
theorem Decode.vectorSection_ok {item : Nat → Decoder α} (write : α → Bytes) {P : α → Prop}
    {f : List α → Module} {payload : Bytes} {m : Module} {r : Reader}
    (hlen : payload.length < 2 ^ 32)
    (h : ∀ i r a r', item i r = .ok a r' →
      P a ∧ (write a).length + r'.rest.length ≤ r.rest.length)
    (hr : (do return f (← vector item) : Decoder Module) ⟨payload, 0⟩ = .ok m r) :
    ∃ xs, m = f xs ∧ Encode.Fits write P xs ∧
      ∀ i, (Encode.vectorSection i write xs).length ≤ (Encode.sized payload).length + 1 := by
  obtain ⟨xs, r₁, hxs, hr⟩ := bind_ok_iff.mp hr
  obtain ⟨rfl, -⟩ := pure_ok_iff.mp hr
  obtain ⟨hP, -, hle⟩ := vector_ok h hxs
  have hle : (Encode.vector write xs).length ≤ payload.length := (Nat.le_add_right _ _).trans hle
  refine ⟨xs, rfl, ⟨hP, hle.trans_lt hlen⟩, fun i => ?_⟩
  have hcount := length_length_le hlen hle
  unfold Encode.vectorSection
  split
  · simp
  · simp only [Encode.frame, Encode.sized, List.length_cons, List.length_append]
    omega

/-- A section leaves a module that the format can hold, larger by no more than its own bytes. -/
theorem Decode.sectionContents_encodable {id : UInt8} {payload : Bytes} {m m' : Module}
    (hlen : payload.length < 2 ^ 32) (h : sectionContents id payload m = .ok m')
    (hm : m.Encodable) :
    m'.Encodable ∧ m'.encode.length ≤ m.encode.length + (Encode.frame id payload).length := by
  obtain ⟨title, d, r, hd, hr, -⟩ := sectionContents_ok h
  have hframe : (Encode.frame id payload).length = (Encode.sized payload).length + 1 := rfl
  rw [hframe]
  unfold sectionDecoder? at hd
  -- One case for each kind of section; all but the first and `h_8` fill a field with a list.
  split at hd <;> cases hd
  case h_1 =>
    obtain ⟨c, r₁, hc, hr⟩ := bind_ok_iff.mp hr
    obtain ⟨rfl, -⟩ := pure_ok_iff.mp hr
    obtain ⟨hc, hle⟩ := custom_ok hc hlen
    have hcount := length_length_le hlen hle
    refine ⟨{ hm with customs := ?_ }, ?_⟩
    · intro c' hc'
      rcases List.mem_append.mp hc' with hc' | hc'
      · exact hm.customs c' hc'
      · obtain rfl := List.mem_singleton.mp hc'
        exact hc
    · simp only [Module.encode, List.length_append, List.flatMap_append, List.flatMap_cons,
        List.flatMap_nil, List.length_nil, Encode.custom, Encode.frame, Encode.sized,
        List.length_cons] at hle hcount ⊢
      omega
  case h_2 =>
    obtain ⟨xs, rfl, hfits, hle⟩ :=
      vectorSection_ok Encode.funcType hlen (fun _ _ _ _ => funcType_ok) hr
    refine ⟨{ hm with types := hfits }, ?_⟩
    have hle := hle SectionId.types
    simp only [Module.encode, List.length_append]
    omega
  case h_3 =>
    obtain ⟨xs, rfl, hfits, hle⟩ :=
      vectorSection_ok Encode.importEntry hlen (fun _ _ _ _ => importEntry_ok) hr
    refine ⟨{ hm with imports := hfits }, ?_⟩
    have hle := hle SectionId.imports
    simp only [Module.encode, List.length_append]
    omega
  case h_4 =>
    obtain ⟨xs, rfl, hfits, hle⟩ :=
      vectorSection_ok Varint.encodeU32 hlen (fun _ r a r' ha => ⟨trivial, spends_u32 r a r' ha⟩) hr
    refine ⟨{ hm with funcs := hfits }, ?_⟩
    have hle := hle SectionId.funcs
    simp only [Module.encode, List.length_append]
    omega
  case h_5 =>
    obtain ⟨xs, rfl, hfits, hle⟩ :=
      vectorSection_ok Encode.limits hlen (fun _ _ _ _ ha => ⟨trivial, limits_ok ha⟩) hr
    refine ⟨{ hm with memories := hfits }, ?_⟩
    have hle := hle SectionId.memories
    simp only [Module.encode, List.length_append]
    omega
  case h_6 =>
    obtain ⟨xs, rfl, hfits, hle⟩ :=
      vectorSection_ok Encode.globalVar hlen (fun _ _ _ _ => globalVar_ok) hr
    refine ⟨{ hm with globals := hfits }, ?_⟩
    have hle := hle SectionId.globals
    simp only [Module.encode, List.length_append]
    omega
  case h_7 =>
    obtain ⟨xs, rfl, hfits, hle⟩ :=
      vectorSection_ok Encode.exportEntry hlen (fun _ _ _ _ => exportEntry_ok) hr
    refine ⟨{ hm with exports := hfits }, ?_⟩
    have hle := hle SectionId.exports
    simp only [Module.encode, List.length_append]
    omega
  case h_8 =>
    obtain ⟨i, r₁, hi, hr⟩ := bind_ok_iff.mp hr
    obtain ⟨rfl, -⟩ := pure_ok_iff.mp hr
    have hle : (Varint.encodeU32 i).length ≤ payload.length :=
      (Nat.le_add_right _ _).trans (spends_u32 _ _ _ hi)
    have hcount := length_length_le hlen hle
    refine ⟨{ hm with }, ?_⟩
    simp only [Module.encode, List.length_append, Encode.frame, Encode.sized, List.length_cons]
    omega
  case h_9 =>
    obtain ⟨xs, rfl, hfits, hle⟩ :=
      vectorSection_ok Encode.body hlen (fun _ _ _ _ => body_ok) hr
    refine ⟨{ hm with bodies := hfits }, ?_⟩
    have hle := hle SectionId.bodies
    simp only [Module.encode, List.length_append]
    omega
  case h_10 =>
    obtain ⟨xs, rfl, hfits, hle⟩ :=
      vectorSection_ok Encode.dataSegment hlen (fun _ _ _ _ => dataSegment_ok) hr
    refine ⟨{ hm with data := hfits }, ?_⟩
    have hle := hle SectionId.data
    simp only [Module.encode, List.length_append]
    omega

theorem Decode.sectionsFrom_encodable {fuel : Nat} {r : Reader} {last : UInt8} {m m' : Module}
    (h : sectionsFrom fuel r last m = .ok m') (hm : m.Encodable) :
    m'.Encodable ∧ m'.encode.length ≤ m.encode.length + r.rest.length := by
  induction fuel generalizing r last m with
  | zero =>
    obtain rfl : m = m' := by simpa [sectionsFrom] using h
    exact ⟨hm, Nat.le_add_right _ _⟩
  | succ fuel ih =>
    rw [sectionsFrom] at h
    split at h
    · obtain rfl : m = m' := by simpa using h
      exact ⟨hm, Nat.le_add_right _ _⟩
    · split at h
      · simp at h
      · rename_i id payload r' hframe
        split at h
        · simp at h
        · rename_i m₁ hm₁
          obtain ⟨hlen, hspent⟩ := sectionFrame_ok hframe
          obtain ⟨hencodable, hle⟩ := sectionContents_encodable hlen hm₁ hm
          obtain ⟨hm', hle'⟩ := ih h hencodable
          exact ⟨hm', by omega⟩

/-- A module that was read can be written, in no more bytes than it was read from. -/
theorem Module.decode_ok {b : Bytes} {m : Module} (h : decode b = .ok m) :
    m.Encodable ∧ m.encode.length ≤ b.length := by
  unfold decode at h
  split at h
  · simp at h
  · rename_i r hr
    obtain ⟨hm, hle⟩ := sectionsFrom_encodable h encodable_empty
    refine ⟨hm, ?_⟩
    have hempty : ({} : Module).encode.length = 8 := by decide
    have hheader : 8 + r.rest.length ≤ b.length := by
      obtain ⟨b₁, r₁, h₁, hr⟩ := bind_ok_iff.mp hr
      obtain ⟨hrest, hlen⟩ := bytes_ok (framed_ok_iff.mp h₁)
      split at hr
      · obtain ⟨b₂, r₂, h₂, hr⟩ := bind_ok_iff.mp hr
        obtain ⟨hrest₂, hlen₂⟩ := bytes_ok (framed_ok_iff.mp h₂)
        split at hr
        · obtain ⟨-, rfl⟩ := pure_ok_iff.mp hr
          change b = _ at hrest
          rw [hrest, hrest₂, List.length_append, List.length_append]
          omega
        · simp at hr
      · simp at hr
    omega

end TapeWasm.Wasm
