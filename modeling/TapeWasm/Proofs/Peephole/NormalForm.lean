import TapeWasm.Proofs.Peephole.Pieces
import TapeWasm.Proofs.Peephole.Shrink

/-!
The normal form of generated code. Condensing comes to it at once: what is condensed has nothing
left to condense, so that condensing a generated module twice gives the bytes that condensing it
once gives.
-/
namespace TapeWasm.Peephole

open Wasm

theorem getLast?_condense_program (bs : Bytes) :
    (Instr.encodeAll (condense (Emit.program bs))).getLast? = some Op.stop := by
  rw [← piecesCode_ofSymbol, condense_piecesCode (ofSymbol_ne_clear_of_mem _)]
  refine Instr.getLast?_encodeAll ?_
  simp [piecesCode, Emit.epilogue, Emit.stop]

/-- What a generated module is condensed to stays as it is. -/
theorem apply_condensed {bs : Bytes} {a : Allowance} {out : Bytes}
    (h : Optimizer.peephole.apply a
      (Emit.moduleOf (Instr.encodeAll (Emit.program bs))).encode = .ok out) :
    Optimizer.peephole.apply a out = .ok out := by
  obtain ⟨ha, hfits, rfl⟩ := (apply_generated_iff bs a out).mp h
  have hcode := decodeAll_condense (Instr.decodeAll_encodeAll (Emit.encodable_program bs))
  have hfits' := (Emit.length_encode_moduleOf_le hfits (length_condense_program_le bs)).1
  have hoptimize :=
    optimize_moduleOf (Instr.decodeAll_ok hcode).1 (getLast?_condense_program bs) hfits'
  rw [condense_condense_program] at hoptimize
  rw [apply_peephole, ha, hoptimize]

/-- The code of a program is in normal form once it is condensed, and condensing the module of the
program a second time changes no byte. -/
theorem condense_reaches_normalForm (p : Program) (h : p.check = .ok ()) :
    ((∃ m, Emit.build p .wasi = .ok m) ↔ ∀ b ∈ p.symbols, inAlphabet b) ∧
    ∀ m, Emit.build p .wasi = .ok m →
      (∃ body code, m.bodies = [body] ∧ Instr.decodeAll body.code = .ok code ∧
        condense (condense code) = condense code ∧ Normal (condense code)) ∧
      Emit.generate p .wasi = .ok m.encode ∧
      (∀ a out, Optimizer.peephole.apply a m.encode = .ok out →
        Optimizer.peephole.apply a out = .ok out) ∧
      (m.encode.length < 2 ^ 32 → ∀ a : Allowance, a.interrupt? = none →
        ∃ out, Optimizer.peephole.apply a m.encode = .ok out) := by
  refine ⟨⟨?_, ?_⟩, fun m hm => ?_⟩
  · rintro ⟨m, hm⟩
    exact ((Emit.build_eq_ok_iff p m).mp hm).1.1
  · intro hb
    exact ⟨_, (Emit.build_eq_ok_iff p _).mpr ⟨⟨hb, h⟩, rfl⟩⟩
  obtain ⟨hp, rfl⟩ := (Emit.build_eq_ok_iff p m).mp hm
  refine ⟨⟨_, _, rfl, Instr.decodeAll_encodeAll (Emit.encodable_program p.symbols),
    condense_condense_program _, normal_of_condense_eq (condense_condense_program _)⟩,
    (Emit.generate_eq_ok_iff p _).mpr ⟨hp, rfl⟩, ?_, ?_⟩
  · intro a out hout
    exact apply_condensed hout
  · intro hsize a ha
    exact ⟨_, (apply_generated_iff p.symbols a _).mpr
      ⟨ha, Emit.fitsSection_of_length hsize, rfl⟩⟩

/-- In `>+-<[-]` the moves meet once the changes between them are gone, and the loop becomes a write
of zero. -/
theorem condense_reaches_normalForm_vanishing :
    (⟨[62, 43, 45, 60, 91, 45, 93], []⟩ : Program).check = .ok () ∧
    ∃ m body code out, Emit.build ⟨[62, 43, 45, 60, 91, 45, 93], []⟩ .wasi = .ok m ∧
      m.bodies = [body] ∧ Instr.decodeAll body.code = .ok code ∧
      condense code ≠ code ∧ condense (condense code) = condense code ∧
      Normal (condense code) ∧
      Optimizer.peephole.apply .ample m.encode = .ok out ∧
      Optimizer.peephole.apply .ample out = .ok out := by
  let p : Program := ⟨[62, 43, 45, 60, 91, 45, 93], []⟩
  have hcheck : p.check = .ok () := rfl
  obtain ⟨hbuilds, hnormal⟩ := condense_reaches_normalForm p hcheck
  obtain ⟨m, hm⟩ := hbuilds.mpr (List.all_eq_true.mp rfl)
  obtain ⟨⟨body, code, hbodies, hcode, hsame, hform⟩, -, hagain, hoptimizes⟩ := hnormal m hm
  obtain ⟨-, rfl⟩ := (Emit.build_eq_ok_iff p m).mp hm
  obtain ⟨out, hout⟩ := hoptimizes (by decide +kernel) .ample rfl
  refine ⟨hcheck, _, body, code, out, hm, hbodies, hcode, ?_, hsame, hform, hout,
    hagain _ out hout⟩
  obtain ⟨rfl, -⟩ := List.cons.inj hbodies
  rw [Instr.decodeAll_encodeAll (Emit.encodable_program p.symbols)] at hcode
  obtain rfl := Except.ok.inj hcode
  decide +kernel

end TapeWasm.Peephole
