import TapeWasm.Proofs.Codec.Cut
import TapeWasm.Proofs.Emit.Module

/-!
Which generated modules can be read. The body of a long program may not fit the fields for its
length. Then reading ends in a fault: wherever the body is cut after an `end`, what follows cannot
be read as sections.
-/
namespace TapeWasm.Emit

open Wasm Decode Decoder

/-- The first bytes of the code of a symbol, and of the epilogue. -/
def heads : List Bytes :=
  [[Op.block, 0x40, Op.localGet], [Op.localGet, 0, Op.i32Const], [Op.localGet, 0, Op.localGet],
   [Op.localGet, 0, Op.i32Load], [Op.localGet, 1, Op.localGet], [Op.localGet, 3, Op.localGet],
   [Op.localGet, 3, Op.i32Const]]

def HasHead (b : Bytes) : Prop :=
  ∃ h ∈ heads, h <+: b

instance (b : Bytes) : Decidable (HasHead b) :=
  inferInstanceAs (Decidable (∃ h ∈ heads, h <+: b))

/-- What may follow an `end`. -/
def FollowsEnd (b : Bytes) : Prop :=
  b = [] ∨ HasHead b ∨ ∃ rest, b = Op.stop :: rest ∧ HasHead rest

/-- Every byte with the value of an `end` is followed as an `end` is. -/
def EndsFollowed (b : Bytes) : Prop :=
  ∀ before after, b = before ++ Op.stop :: after → FollowsEnd after

theorem HasHead.append {b : Bytes} (h : HasHead b) (more : Bytes) : HasHead (b ++ more) := by
  obtain ⟨head, hmem, hpre⟩ := h
  exact ⟨head, hmem, hpre.trans (List.prefix_append b more)⟩

theorem EndsFollowed.append {a b : Bytes} (ha : Op.stop ∉ a) (hb : EndsFollowed b) :
    EndsFollowed (a ++ b) := by
  intro before after h
  obtain ⟨c, -, hc⟩ | ⟨c, rfl, hc⟩ := List.append_eq_append_iff.mp h
  · exact hb c after hc
  · cases c with
    | nil => exact hb [] after (by simpa using hc.symm)
    | cons x c =>
      obtain rfl : Op.stop = x := by
        simp only [List.cons_append, List.cons.injEq] at hc
        exact hc.1
      exact absurd (by simp) ha

theorem EndsFollowed.cons {b : Bytes} (hfollows : FollowsEnd b) (hb : EndsFollowed b) :
    EndsFollowed (Op.stop :: b) := by
  intro before after h
  cases before with
  | nil =>
    obtain rfl : b = after := by simpa using h
    exact hfollows
  | cons x before => exact hb before after (List.cons.inj h).2

theorem hasHead_symbol (s : Symbol) : HasHead (Instr.encodeAll (symbol s)) := by
  cases s <;> decide +kernel

theorem dropWhile_symbol (s : Symbol) :
    (Instr.encodeAll (symbol s)).dropWhile (· != Op.stop) ∈
      [[], [Op.stop], [Op.stop, Op.stop]] := by
  cases s <;> decide +kernel

theorem EndsFollowed.symbol {b : Bytes} (hb : EndsFollowed b) (hhead : HasHead b) (s : Symbol) :
    EndsFollowed (Instr.encodeAll (symbol s) ++ b) := by
  have hfree : Op.stop ∉ (Instr.encodeAll (Emit.symbol s)).takeWhile (· != Op.stop) := by
    intro hmem
    simpa using List.all_eq_true.mp List.all_takeWhile Op.stop hmem
  have hend : EndsFollowed (Op.stop :: b) := hb.cons (.inr (.inl hhead))
  rw [← List.takeWhile_append_dropWhile (p := (· != Op.stop))
    (l := Instr.encodeAll (Emit.symbol s)), List.append_assoc]
  refine EndsFollowed.append hfree ?_
  have hdrop := dropWhile_symbol s
  simp only [List.mem_cons, List.not_mem_nil, or_false] at hdrop
  rcases hdrop with h | h | h <;> rw [h]
  · exact hb
  · exact hend
  · exact hend.cons (.inr (.inr ⟨b, rfl, hhead⟩))

theorem endsFollowed_symbols (bs : Bytes) :
    HasHead (Instr.encodeAll (symbols bs ++ epilogue)) ∧
      EndsFollowed (Instr.encodeAll (symbols bs ++ epilogue)) := by
  induction bs with
  | nil =>
    have hflush : Op.stop ∉ Instr.encodeAll flush := by decide +kernel
    have hend : EndsFollowed (Instr.encodeAll epilogue) := by
      have hnil : EndsFollowed [] := fun before after h => by simp at h
      have hstop : EndsFollowed [Op.stop] := hnil.cons (.inl rfl)
      have h := EndsFollowed.append hflush hstop
      rwa [show [Op.stop] = Instr.encodeAll [stop] from rfl, ← Instr.encodeAll_append] at h
    exact ⟨by decide +kernel, hend⟩
  | cons b bs ih =>
    cases hb : Symbol.ofByte? b with
    | none => simpa [symbols, hb] using ih
    | some s =>
      have hcode : symbols (b :: bs) ++ epilogue = symbol s ++ (symbols bs ++ epilogue) := by
        simp [symbols, hb]
      rw [hcode, Instr.encodeAll_append]
      exact ⟨(hasHead_symbol s).append _, ih.2.symbol ih.1 s⟩

theorem endsFollowed_program (bs : Bytes) : EndsFollowed (Instr.encodeAll (program bs)) := by
  have hstart : Op.stop ∉ Instr.encodeAll prologue := by decide +kernel
  rw [program, List.append_assoc, Instr.encodeAll_append]
  exact .append hstart (endsFollowed_symbols bs).2

/-! What follows an `end` cannot be read as sections after the code section. -/

/-- The first bytes as a section: its number or size, then a count, then the flags of an entry. -/
structure Head (x y z : UInt8) : Prop where
  size : x = Op.block ∧ y = 0x40 ∨ x = Op.localGet ∧ (y = 0 ∨ y = 1 ∨ y = 3)
  flags : z < 128 ∧ z ≠ 0

theorem exists_of_hasHead {b : Bytes} (h : HasHead b) :
    ∃ x y z rest, Head x y z ∧ b = x :: y :: z :: rest := by
  obtain ⟨head, hmem, rest, rfl⟩ := h
  simp only [heads, List.mem_cons, List.not_mem_nil, or_false] at hmem
  rcases hmem with rfl | rfl | rfl | rfl | rfl | rfl | rfl <;>
    exact ⟨_, _, _, rest, ⟨by decide, by decide⟩, rfl⟩

section Sections

variable {b : Bytes} {fuel pos : Nat} {m m' : Module}

theorem sectionsFrom_ne_ok_of_hasHead (h : HasHead b) :
    sectionsFrom (fuel + 1) ⟨b, pos⟩ SectionId.bodies m ≠ .ok m' := by
  intro hok
  obtain ⟨x, y, z, rest, hhead, rfl⟩ := exists_of_hasHead h
  obtain ⟨id, payload, r', m₁, hframe, hcontents, -⟩ := sectionsFrom_ok hok (List.cons_ne_nil _ _)
  obtain ⟨size, r₁, r₂, hrest, horder, -⟩ := sectionFrame_parts hframe
  obtain rfl : x = id := (List.cons.inj hrest).1
  rcases hhead.size with ⟨rfl, -⟩ | ⟨rfl, -⟩
  · exact absurd horder (by decide)
  · obtain ⟨title, d, r, hd, -⟩ := sectionContents_ok hcontents
    cases hd

theorem dataSegment_ne_ok {i : Nat} {flags : UInt8} (hsmall : flags < 128) (hflags : flags ≠ 0)
    {d : DataSegment} {r : Reader} : dataSegment i ⟨flags :: b, pos⟩ ≠ .ok d r := by
  intro h
  obtain ⟨v, s, hv, h⟩ := bind_ok_iff.mp h
  rw [u32_small hsmall] at hv
  obtain ⟨rfl, -⟩ := EStateM.Result.ok.inj hv
  have hne : flags.toUInt32 ≠ 0 := fun h => hflags (by
    have := congrArg UInt32.toNat h
    exact UInt8.toNat_inj.mp (by simpa using this))
  rw [if_neg hne] at h
  simp at h

/-- The count is of more entries than there is room for, or of none, or no entry follows it. -/
theorem sectionContents_data_ne_ok {x y z : UInt8} (hhead : Head x y z) {payload rest : Bytes}
    (hpayload : y :: z :: b = payload ++ rest) (hlength : payload.length = x.toNat) :
    sectionContents SectionId.data payload m ≠ .ok m' := by
  intro hok
  obtain ⟨ds, r, hvector, hused⟩ := sectionContents_vector (by decide) rfl hok
  obtain ⟨count, s, hcount, hle, hitems⟩ := vector_parts hvector
  have hlong : 2 ≤ payload.length := by
    rw [hlength]
    rcases hhead.size with ⟨rfl, -⟩ | ⟨rfl, -⟩ <;> decide
  obtain ⟨tail, rfl⟩ : ∃ tail, payload = y :: z :: tail := by
    have hcount : [y, z] <+: y :: z :: b := ⟨b, rfl⟩
    obtain ⟨tail, htail⟩ := List.prefix_of_prefix_length_le hcount ⟨rest, hpayload.symm⟩ hlong
    exact ⟨tail, htail.symm⟩
  have hsmall : y < 128 := by
    rcases hhead.size with ⟨-, rfl⟩ | ⟨-, rfl | rfl | rfl⟩ <;> decide
  rw [u32_small hsmall] at hcount
  obtain ⟨rfl, rfl⟩ := EStateM.Result.ok.inj hcount
  rcases hhead.size with ⟨rfl, rfl⟩ | ⟨rfl, rfl | rfl | rfl⟩
  · have hroom : (z :: tail).length = 1 := by
      have h : (64 :: z :: tail).length = 2 := hlength
      simpa using h
    rw [hroom] at hle
    exact absurd hle (by decide)
  · obtain ⟨-, rfl⟩ : [] = ds ∧ _ = r := by simpa [items, itemsFrom] using hitems
    cases hused
  · obtain ⟨d, s, hd⟩ := items_succ_ok (n := 0) hitems
    exact dataSegment_ne_ok hhead.flags.1 hhead.flags.2 hd
  · obtain ⟨d, s, hd⟩ := items_succ_ok (n := 2) hitems
    exact dataSegment_ne_ok hhead.flags.1 hhead.flags.2 hd

theorem sectionsFrom_ne_ok_of_stop (h : HasHead b) :
    sectionsFrom (fuel + 1) ⟨Op.stop :: b, pos⟩ SectionId.bodies m ≠ .ok m' := by
  intro hok
  obtain ⟨x, y, z, rest, hhead, rfl⟩ := exists_of_hasHead h
  obtain ⟨id, payload, r', m₁, hframe, hcontents, -⟩ := sectionsFrom_ok hok (List.cons_ne_nil _ _)
  obtain ⟨size, r₁, r₂, hrest, horder, hsize, hpayload, hlength⟩ := sectionFrame_parts hframe
  obtain ⟨rfl, hr₁⟩ : Op.stop = id ∧ x :: y :: z :: rest = r₁.rest := by simpa using hrest
  have hsmall : x < 128 := by
    rcases hhead.size with ⟨rfl, -⟩ | ⟨rfl, -⟩ <;> decide
  have hr : r₁ = ⟨x :: y :: z :: rest, r₁.pos⟩ := by rw [hr₁]
  rw [hr, u32_small hsmall] at hsize
  obtain ⟨rfl, rfl⟩ := EStateM.Result.ok.inj hsize
  exact sectionContents_data_ne_ok hhead hpayload (by simpa using hlength) hcontents

/-- After the code section nothing is read but the end, if what is left follows an `end`. -/
theorem eq_nil_of_sectionsFrom (hfollows : FollowsEnd b) (hfuel : b.length ≤ fuel)
    (hok : sectionsFrom fuel ⟨b, pos⟩ SectionId.bodies m = .ok m') : b = [] := by
  by_contra hne
  obtain ⟨n, rfl⟩ : ∃ n, fuel = n + 1 :=
    Nat.exists_eq_succ_of_ne_zero (by have := List.length_pos_iff.mpr hne; omega)
  rcases hfollows with rfl | hhead | ⟨rest, rfl, hhead⟩
  · exact hne rfl
  · exact sectionsFrom_ne_ok_of_hasHead hhead hok
  · exact sectionsFrom_ne_ok_of_stop hhead hok

end Sections

/-! A body that was cut ends in an `end`. -/

def localBytes : Bytes :=
  Encode.vector Encode.localRun [⟨Var.count, .i32⟩]

theorem localBytes_eq : localBytes = [1, 4, 0x7f] := by decide +kernel

theorem bodyContents_of_cut {raw more code : Bytes} {b : Body} {r : Reader}
    (hcut : raw ++ more = localBytes ++ code) (h : bodyContents ⟨raw, 0⟩ = .ok b r) :
    ∃ before, code = before ++ Op.stop :: more := by
  have hlocals : localBytes <+: localBytes ++ code := List.prefix_append _ _
  have hraw : raw <+: localBytes ++ code := ⟨more, hcut⟩
  by_cases hlong : localBytes.length ≤ raw.length
  · obtain ⟨part, rfl⟩ := List.prefix_of_prefix_length_le hlocals hraw hlong
    obtain ⟨locals, r₁, hruns, h⟩ := bind_ok_iff.mp h
    obtain ⟨all, r₂, hall, h⟩ := bind_ok_iff.mp h
    obtain ⟨rfl, -⟩ : r₁.rest = all ∧ _ = r₂ := by simpa [Decoder.all] using hall
    have hread : localRuns ⟨localBytes ++ part, 0⟩ = .ok [⟨Var.count, .i32⟩] ⟨part, _⟩ :=
      reads_localRuns (by decide) (by decide) (by decide) part 0
    rw [within_ok_iff, hread] at hruns
    obtain ⟨-, rfl⟩ := EStateM.Result.ok.inj hruns
    split at h
    · rename_i hlast
      obtain ⟨before, hbefore⟩ := List.getLast?_eq_some_iff.mp hlast
      refine ⟨before, ?_⟩
      have hpart : part = before ++ [Op.stop] := hbefore
      simpa [hpart] using hcut.symm
    · simp at h
  · obtain ⟨part, hpart⟩ := List.prefix_of_prefix_length_le hraw hlocals (by omega)
    rw [localBytes_eq] at hpart hlong
    have htake : raw = List.take raw.length [1, 4, 0x7f] := by
      rw [← hpart]
      simp
    obtain hlength | hlength | hlength : raw.length = 0 ∨ raw.length = 1 ∨ raw.length = 2 := by
      simp only [List.length_cons, List.length_nil] at hlong
      omega
    all_goals
      rw [hlength] at htake
      subst htake
      cases h

/-- What is read of a cut code section is a body up to an `end`. -/
theorem sectionContents_of_cut {code payload more : Bytes} {m m' : Module}
    (hcut : payload ++ more = Encode.vector Encode.body (moduleOf code).bodies)
    (h : sectionContents SectionId.bodies payload m = .ok m') :
    ∃ before, code = before ++ Op.stop :: more := by
  have hbytes : Encode.vector Encode.body (moduleOf code).bodies =
      Varint.encodeU32 1 ++ (Varint.encodeU32 (UInt32.ofNat (localBytes ++ code).length) ++
        (localBytes ++ code)) := by
    simp [Encode.vector, Encode.body, Encode.sized, Encode.length, moduleOf, localBytes]
  obtain ⟨bodies, r, hvector, hused⟩ := sectionContents_vector (by decide) rfl h
  obtain ⟨count, s, hcount, -, hitems⟩ := vector_parts hvector
  obtain ⟨rfl, hcut⟩ := u32_of_cut hcount (hcut.trans hbytes)
  have hone : items body 1 s = .ok bodies r := hitems
  rw [items, itemsFrom] at hone
  split at hone
  · rename_i b s' hb
    obtain ⟨-, rfl⟩ := EStateM.Result.ok.inj hone
    obtain ⟨size, s₁, hsize, hb⟩ := bind_ok_iff.mp hb
    obtain ⟨raw, s₂, hraw, hb⟩ := bind_ok_iff.mp (within_ok_iff.mp hb)
    obtain ⟨-, hcut⟩ := u32_of_cut hsize hcut
    obtain ⟨hrest, -⟩ := bytes_ok hraw
    unfold onBytes at hb
    split at hb
    · rename_i b' r' hcontents
      obtain ⟨-, rfl⟩ := EStateM.Result.ok.inj hb
      rw [hrest, hused, List.append_nil] at hcut
      exact bodyContents_of_cut hcut hcontents
    · cases hb
  · cases hone

def FitsSection (code : Bytes) : Prop :=
  (Encode.vector Encode.body (moduleOf code).bodies).length < 2 ^ 32

theorem fitsSection_of_length {code : Bytes} (h : (moduleOf code).encode.length < 2 ^ 32) :
    FitsSection code :=
  (moduleOf code).length_bodies_le.trans_lt h

theorem length_codeSection (code : Bytes) :
    (Encode.vector Encode.body (moduleOf code).bodies).length =
      (Encode.length 1).length + ((Encode.length (localBytes ++ code).length).length +
        (localBytes ++ code).length) := by
  simp [Encode.vector, Encode.body, Encode.sized, moduleOf, localBytes]

theorem encodable_body {code : Bytes} (hend : code.getLast? = some Op.stop)
    (hfits : FitsSection code) : Body.Encodable { locals := [⟨Var.count, .i32⟩], code } := by
  have hcount : Var.count.toNat ≤ maxLocals := by decide
  refine ⟨by simp [ValueType.isValid], hcount, hend, ?_⟩
  have hlength := length_codeSection code
  unfold FitsSection at hfits
  show (localBytes ++ code).length < 2 ^ 32
  omega

/-- A module with a body that ends in an `end` can be written if its code section can. -/
theorem encodable_moduleOf_of_fits {code : Bytes} (hend : code.getLast? = some Op.stop)
    (hfits : FitsSection code) : (moduleOf code).Encodable := by
  have hsmall : (moduleOf [Op.stop]).Encodable := by
    refine Module.encodable_of_length (by decide +kernel) ?_ ?_ (by simp [moduleOf]) ?_ ?_
      (by simp [moduleOf]) (by simp [moduleOf])
    case refine_1 =>
      simp only [moduleOf, List.forall_mem_cons]
      exact ⟨⟨by decide, by decide, by decide, by decide⟩,
        ⟨by decide, by decide, by decide, by decide⟩, by simp⟩
    case refine_2 =>
      simp only [moduleOf, List.forall_mem_cons]
      exact ⟨⟨by decide, by decide, trivial⟩, ⟨by decide, by decide, trivial⟩, by simp⟩
    case refine_3 =>
      simp only [moduleOf, List.forall_mem_cons]
      exact ⟨⟨by decide, by decide⟩, ⟨by decide, by decide⟩, by simp⟩
    case refine_4 =>
      simp only [moduleOf, List.mem_singleton, forall_eq]
      exact encodable_body rfl (by unfold FitsSection; decide +kernel)
  refine { hsmall with bodies := ⟨?_, hfits⟩ }
  simp only [moduleOf, List.mem_singleton, forall_eq]
  exact encodable_body hend hfits

/-- The sections before the code section, the same for all programs. -/
def preamble : Bytes :=
  Encode.vectorSection SectionId.types Encode.funcType (moduleOf []).types ++
    (Encode.vectorSection SectionId.imports Encode.importEntry (moduleOf []).imports ++
    (Encode.vectorSection SectionId.funcs Varint.encodeU32 (moduleOf []).funcs ++
    (Encode.vectorSection SectionId.memories Encode.limits (moduleOf []).memories ++
      Encode.vectorSection SectionId.exports Encode.exportEntry (moduleOf []).exports)))

def codeSection (code : Bytes) : Bytes :=
  Encode.frame SectionId.bodies (Encode.vector Encode.body (moduleOf code).bodies)

theorem encode_moduleOf (code : Bytes) :
    (moduleOf code).encode = magic ++ version ++ (preamble ++ codeSection code) := by
  simp [Module.encode, moduleOf, Encode.vectorSection, preamble, codeSection]

/-- Shorter code makes a shorter module. -/
theorem length_encode_moduleOf_le {code code' : Bytes} (hfits : FitsSection code)
    (hle : code'.length ≤ code.length) :
    FitsSection code' ∧ (moduleOf code').encode.length ≤ (moduleOf code).encode.length := by
  have hbody : (localBytes ++ code').length ≤ (localBytes ++ code).length := by
    simpa using hle
  have hlt : (localBytes ++ code).length < 2 ^ 32 := by
    have hlength := length_codeSection code
    unfold FitsSection at hfits
    omega
  have hcount := length_length_le hlt hbody
  have hvector : (Encode.vector Encode.body (moduleOf code').bodies).length ≤
      (Encode.vector Encode.body (moduleOf code).bodies).length := by
    rw [length_codeSection, length_codeSection]
    omega
  refine ⟨hvector.trans_lt hfits, ?_⟩
  have hsize := length_length_le hfits hvector
  simp only [encode_moduleOf, codeSection, Encode.frame, Encode.sized, List.length_append,
    List.length_cons]
  omega

/-- What is read of the sections before the code section. -/
theorem sectionsFrom_preamble (code : Bytes) (fuel pos : Nat) (rest : Bytes) :
    ∃ pos', sectionsFrom (fuel + 5) ⟨preamble ++ rest, pos⟩ 0 {} =
      sectionsFrom fuel ⟨rest, pos'⟩ SectionId.exports { moduleOf code with bodies := [] } := by
  have h : (moduleOf [Op.stop]).Encodable :=
    encodable_moduleOf_of_fits rfl (by unfold FitsSection; decide +kernel)
  let m := moduleOf code
  have hne {α : Type} {x : α} {xs : List α} : x :: xs ≠ [] := List.cons_ne_nil x xs
  simp only [preamble, List.append_assoc]
  apply Exists.intro
  refine (sectionsFrom_vectorSection (f := fun xs => { types := xs }) rfl h.types hne
    (by simp [Encode.funcType]) (fun _ => reads_funcType) (by decide) _ _ _).trans ?_
  refine (sectionsFrom_vectorSection (f := fun xs => { types := m.types, imports := xs }) rfl
    h.imports hne (fun _ => by simp [Encode.importEntry]) (fun _ hi _ => reads_importEntry hi)
    (by decide) _ _ _).trans ?_
  refine (sectionsFrom_vectorSection
    (f := fun xs => { types := m.types, imports := m.imports, funcs := xs }) rfl h.funcs hne
    Varint.encodeU32_ne_nil (fun x _ _ => reads_u32 x) (by decide) _ _ _).trans ?_
  refine (sectionsFrom_vectorSection
    (f := fun xs => { types := m.types, imports := m.imports, funcs := m.funcs, memories := xs })
    rfl h.memories hne limits_ne_nil (fun l _ _ => reads_limits l) (by decide) _ _ _).trans ?_
  exact sectionsFrom_vectorSection (f := fun xs => { m with exports := xs, bodies := [] }) rfl
    h.exports hne (by simp [Encode.exportEntry]) (fun _ he _ => reads_exportEntry he)
    (by decide) _ _ _

/-- Reading a generated module comes to its code section. -/
theorem decode_moduleOf (code : Bytes) :
    ∃ fuel pos, (codeSection code).length ≤ fuel ∧
      Module.decode (moduleOf code).encode = sectionsFrom fuel ⟨codeSection code, pos⟩
        SectionId.exports { moduleOf code with bodies := [] } := by
  have hheader : Reads header (magic ++ version) () := fun _ _ => rfl
  have hlength : (moduleOf code).encode.length =
      8 + (preamble.length + (codeSection code).length) := by
    simp only [encode_moduleOf, List.length_append]
    rfl
  have hhead : header ⟨(moduleOf code).encode, 0⟩ =
      .ok () ⟨preamble ++ codeSection code, 0 + (magic ++ version).length⟩ := by
    rw [encode_moduleOf]
    exact hheader _ _
  obtain ⟨pos, hsections⟩ := sectionsFrom_preamble code ((moduleOf code).encode.length - 5)
    (0 + (magic ++ version).length) (codeSection code)
  rw [Nat.sub_add_cancel (by omega)] at hsections
  refine ⟨(moduleOf code).encode.length - 5, pos, by omega, ?_⟩
  rw [Module.decode, hhead]
  exact hsections

/-- A generated module that can be read at all fits its code section. -/
theorem fitsSection_of_decode {bs : Bytes} {m : Module}
    (h : Module.decode (moduleOf (Instr.encodeAll (program bs))).encode = .ok m) :
    FitsSection (Instr.encodeAll (program bs)) := by
  obtain ⟨fuel, pos, hfuel, hdecode⟩ := decode_moduleOf (Instr.encodeAll (program bs))
  rw [hdecode] at h
  obtain ⟨fuel, rfl⟩ : ∃ n, fuel = n + 1 :=
    Nat.exists_eq_succ_of_ne_zero (by simp [codeSection, Encode.frame] at hfuel; omega)
  obtain ⟨id, payload, r', m₁, hframe, hcontents, hrest⟩ :=
    sectionsFrom_ok h (List.cons_ne_nil _ _)
  obtain ⟨size, r₁, r₂, hhead, -, hsize, hpayload, hlength⟩ := sectionFrame_parts hframe
  obtain ⟨rfl, hr₁⟩ := List.cons.inj hhead
  have hcut : payload ++ r'.rest =
      Encode.vector Encode.body (moduleOf (Instr.encodeAll (program bs))).bodies := by
    have hnumber := u32_of_cut hsize ((List.append_nil _).trans hr₁.symm)
    rw [← hpayload, ← hnumber.2, List.append_nil]
  obtain ⟨before, hcode⟩ := sectionContents_of_cut hcut hcontents
  have hnil : r'.rest = [] := by
    refine eq_nil_of_sectionsFrom (endsFollowed_program bs before _ hcode) ?_ hrest
    rw [codeSection, ← hcut] at hfuel
    simp only [Encode.frame, Encode.sized, List.length_cons, List.length_append] at hfuel
    omega
  rw [hnil, List.append_nil] at hcut
  rw [FitsSection, ← hcut, hlength]
  exact size.toNat_lt

end TapeWasm.Emit
