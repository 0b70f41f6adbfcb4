import TapeWasm.Proofs.Emit.Readable
import TapeWasm.Proofs.Emit.Validity
import TapeWasm.Proofs.Peephole.Length
import TapeWasm.Proofs.Peephole.Validity

/-!
Condensing a generated module makes it no longer. The constants of generated code take as many bytes
with either sign, so that its weight is the number of its bytes, and no rule adds to the weight. The
lengths written in front of the code then take no more bytes either.
-/
namespace TapeWasm.Peephole

open Wasm

theorem weight_symbol (s : Symbol) : ∀ i ∈ Emit.symbol s, weight i = i.encode.length := by
  cases s <;> decide +kernel

theorem weight_program (bs : Bytes) : ∀ i ∈ Emit.program bs, weight i = i.encode.length := by
  have hends : ∀ i ∈ Emit.prologue ++ Emit.epilogue, weight i = i.encode.length := by
    decide +kernel
  intro i hi
  rw [Emit.program, List.mem_append, List.mem_append] at hi
  obtain (hi | hi) | hi := hi
  · exact hends i (by simp [hi])
  · obtain ⟨b, -, hb⟩ := List.mem_flatMap.mp hi
    cases hs : Symbol.ofByte? b with
    | none => simp [hs] at hb
    | some s => exact weight_symbol s i (by simpa [hs] using hb)
  · exact hends i (by simp [hi])

theorem totalWeight_eq_length {is : List Instr} (h : ∀ i ∈ is, weight i = i.encode.length) :
    totalWeight is = (Instr.encodeAll is).length := by
  induction is with
  | nil => rfl
  | cons i is ih =>
    rw [totalWeight_cons, h i (by simp), ih fun j hj => h j (by simp [hj]), Instr.encodeAll_cons,
      List.length_append]

theorem length_condense_program_le (bs : Bytes) :
    (Instr.encodeAll (condense (Emit.program bs))).length ≤
      (Instr.encodeAll (Emit.program bs)).length :=
  calc (Instr.encodeAll (condense (Emit.program bs))).length
      ≤ totalWeight (condense (Emit.program bs)) := length_encodeAll_le _
    _ ≤ totalWeight (Emit.program bs) :=
        (reduces_condense fun i hi => (Emit.encodable_program bs i hi).wellShaped).totalWeight_le
    _ = (Instr.encodeAll (Emit.program bs)).length := totalWeight_eq_length (weight_program bs)

@[simp] theorem apply_peephole (a : Allowance) (bytes : Bytes) :
    Optimizer.peephole.apply a bytes = optimize a.interrupt? bytes :=
  rfl

/-- A module with the body of a generated one is condensed to a module with that body condensed. -/
theorem optimize_moduleOf {code : List Instr} (hcode : ∀ i ∈ code, i.Encodable)
    (hend : (Instr.encodeAll code).getLast? = some Op.stop)
    (hfits : Emit.FitsSection (Instr.encodeAll code)) :
    optimize none (Emit.moduleOf (Instr.encodeAll code)).encode =
      .ok (Emit.moduleOf (Instr.encodeAll (condense code))).encode := by
  have hdecode := Module.decode_encode (Emit.encodable_moduleOf_of_fits hend hfits)
  let body : Body := ⟨[⟨Emit.Var.count, .i32⟩], Instr.encodeAll code⟩
  have hbody := condenseBody_eq (b := body) (Instr.decodeAll_encodeAll hcode)
  have hbodies : condenseBodies none (Emit.moduleOf (Instr.encodeAll code)).bodies 0 =
      .ok (Emit.moduleOf (Instr.encodeAll (condense code))).bodies := by
    change condenseBodies none [body] 0 = _
    simp only [condenseBodies, hbody]
    rfl
  rw [optimize_eq hdecode hbodies]
  rfl

/-- When condensing a generated module succeeds, and what it comes to. -/
theorem apply_generated_iff (bs : Bytes) (a : Allowance) (out : Bytes) :
    Optimizer.peephole.apply a (Emit.moduleOf (Instr.encodeAll (Emit.program bs))).encode =
        .ok out ↔
      a.interrupt? = none ∧ Emit.FitsSection (Instr.encodeAll (Emit.program bs)) ∧
        out = (Emit.moduleOf (Instr.encodeAll (condense (Emit.program bs)))).encode := by
  have hend := Emit.getLast?_program bs
  have hoptimize := optimize_moduleOf (Emit.encodable_program bs) hend
  rw [apply_peephole]
  constructor
  · intro h
    have hfits : Emit.FitsSection (Instr.encodeAll (Emit.program bs)) := by
      cases hm : Module.decode (Emit.moduleOf (Instr.encodeAll (Emit.program bs))).encode with
      | ok m => exact Emit.fitsSection_of_decode hm
      | error f => simp [optimize, hm] at h
    cases ha : a.interrupt? with
    | none =>
      rw [ha] at h
      exact ⟨rfl, hfits, Except.ok.inj (h.symm.trans (hoptimize hfits))⟩
    | some i =>
      have hdecode := Module.decode_encode (Emit.encodable_moduleOf_of_fits hend hfits)
      simp only [optimize, hdecode, ha] at h
      cases h
  · rintro ⟨ha, hfits, rfl⟩
    rw [ha]
    exact hoptimize hfits

/-- Condensing makes no list of instructions longer, and no generated module in bytes. -/
theorem condense_never_grows :
    (∀ code : List Instr, (condense code).length ≤ code.length) ∧
    ∀ p : Program, p.check = .ok () →
      ((∃ bytes, Emit.generate p .wasi = .ok bytes) ↔ ∀ b ∈ p.symbols, inAlphabet b) ∧
      ∀ bytes, Emit.generate p .wasi = .ok bytes →
        (∀ a out, Optimizer.peephole.apply a bytes = .ok out → out.length ≤ bytes.length) ∧
        (bytes.length < 2 ^ 32 → ∀ a : Allowance, a.interrupt? = none →
          ∃ out, Optimizer.peephole.apply a bytes = .ok out) := by
  refine ⟨length_condense_le_length, fun p h => ⟨⟨?_, ?_⟩, fun bytes hbytes => ?_⟩⟩
  · rintro ⟨bytes, hbytes⟩
    exact ((Emit.generate_eq_ok_iff p bytes).mp hbytes).1.1
  · intro hb
    exact ⟨_, (Emit.generate_eq_ok_iff p _).mpr ⟨⟨hb, h⟩, rfl⟩⟩
  · obtain ⟨-, rfl⟩ := (Emit.generate_eq_ok_iff p bytes).mp hbytes
    constructor
    · intro a out hout
      obtain ⟨-, hfits, rfl⟩ := (apply_generated_iff p.symbols a out).mp hout
      exact (Emit.length_encode_moduleOf_le hfits (length_condense_program_le _)).2
    · intro hsize a ha
      exact ⟨_, (apply_generated_iff p.symbols a _).mpr ⟨ha, Emit.fitsSection_of_length hsize, rfl⟩⟩

/-- The program `>>+++[-]` gets shorter: its moves and its changes are put together, and its loop
becomes a write of zero. -/
theorem condense_never_grows_clearing :
    (⟨[62, 62, 43, 43, 43, 91, 45, 93], []⟩ : Program).check = .ok () ∧
    ∃ bytes out, Emit.generate ⟨[62, 62, 43, 43, 43, 91, 45, 93], []⟩ .wasi = .ok bytes ∧
      bytes.length < 2 ^ 32 ∧ Optimizer.peephole.apply .ample bytes = .ok out ∧
      out.length ≤ bytes.length ∧ out.length ≠ bytes.length := by
  let p : Program := ⟨[62, 62, 43, 43, 43, 91, 45, 93], []⟩
  have hcheck : p.check = .ok () := rfl
  obtain ⟨hgenerates, hshrinks⟩ := condense_never_grows.2 p hcheck
  obtain ⟨bytes, hbytes⟩ := hgenerates.mpr (List.all_eq_true.mp rfl)
  obtain ⟨hle, hoptimizes⟩ := hshrinks bytes hbytes
  obtain ⟨-, rfl⟩ := (Emit.generate_eq_ok_iff p bytes).mp hbytes
  have hsize :
      (Emit.moduleOf (Instr.encodeAll (Emit.program p.symbols))).encode.length < 2 ^ 32 := by
    decide +kernel
  obtain ⟨out, hout⟩ := hoptimizes hsize .ample rfl
  refine ⟨hcheck, _, out, hbytes, hsize, hout, hle .ample out hout, ?_⟩
  obtain ⟨-, -, rfl⟩ := (apply_generated_iff p.symbols .ample out).mp hout
  decide +kernel

end TapeWasm.Peephole
