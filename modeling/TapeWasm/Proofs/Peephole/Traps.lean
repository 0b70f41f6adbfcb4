import TapeWasm.Proofs.Emit.Code
import TapeWasm.Proofs.Emit.Validity
import TapeWasm.Proofs.Machine.Output
import TapeWasm.Proofs.Peephole.Meaning
import TapeWasm.Proofs.Peephole.NormalForm
import TapeWasm.Proofs.Peephole.Validity
import TapeWasm.Proofs.Tape.Walk

/-!
Condensing and traps. What a body has put out before a trap its condensed form puts out too. The
trap itself is kept as long as condensing drops no change: a change that is dropped takes its access
to memory with it, and with that the trap it would have ended in.
-/
namespace TapeWasm.Peephole

open Wasm Machine

section Bodies

variable {code code' : List Instr} {host : List HostCall} {arity : Nat} {locals : List Value}
  {store last : Store} {t : Trap}

theorem Reduces.delivers (h : Reduces code code') {output : Array UInt8}
    (hd : Delivers host output (start code arity locals store)) :
    Delivers host output (start code' arity locals store) := by
  induction h with
  | refl => exact hd
  | tail _ hstep ih =>
    cases hstep with
    | at_ before after h =>
      exact (similar_start before after arity).delivers (h.replaceable host) ih

theorem ReducesBy.trapsWith (h : ReducesBy (Permitted False) code code')
    (ht : TrapsWith host t last (start code arity locals store)) :
    TrapsWith host t last (start code' arity locals store) := by
  induction h with
  | refl => exact ht
  | tail _ hstep ih =>
    cases hstep with
    | at_ before after h =>
      exact (similar_start before after arity).trapsWith (h.replaceable host) ih

/-- A body that does not get stuck and its condensed form end in the same traps if no change is
dropped. -/
theorem trapsWith_condense_iff (hw : ∀ i ∈ code, i.WellShaped)
    (hdrops : dropsFrom 0 code [] = false)
    (hsticks : ¬ Sticks host (start code arity locals store)) :
    TrapsWith host t last (start (condense code) arity locals store) ↔
      TrapsWith host t last (start code arity locals store) := by
  have hkeeps := reduces_condense_of_not_drops hw hdrops
  refine ⟨fun ht => ?_, hkeeps.trapsWith⟩
  have hrefines := (reduces_condense hw).refines host arity locals store
  obtain ⟨n, t', r, hn⟩ := (hrefines.fails (.inl ht.traps)).resolve_right hsticks
  have ht' : TrapsWith host t' r.store (start code arity locals store) := ⟨n, r, hn, rfl⟩
  obtain ⟨rfl, rfl⟩ := ht.unique (hkeeps.trapsWith ht')
  exact ht'

end Bodies

section Programs

variable {p : Program} {bytes : Bytes}

theorem not_sticks_initial {bs : Bytes} (h : Balanced (bs.filterMap Symbol.ofByte?))
    (input : Bytes) : ¬ Sticks Emit.host (Emit.initial bs input) := by
  have hstart : ∃ final, (Emit.scope []).WellTyped Emit.host final (Emit.initial bs input) :=
    Scope.wellTyped_start (Emit.checkCode_program h) (Emit.runnable_program bs) rfl
      (by simp [Emit.scope])
  obtain ⟨final, htyped⟩ := hstart
  exact htyped.not_sticks

/-- Condensing the module of a program condenses the program's code. -/
theorem optimize_generate (h : Emit.generate p .wasi = .ok bytes) (hsize : bytes.length < 2 ^ 32) :
    Module.decode bytes = .ok (Emit.moduleOf (Instr.encodeAll (Emit.program p.symbols))) ∧
    ∃ out, optimize none bytes = .ok out ∧
      Module.decode out =
        .ok (Emit.moduleOf (Instr.encodeAll (condense (Emit.program p.symbols)))) := by
  obtain ⟨-, rfl⟩ := (Emit.generate_eq_ok_iff p bytes).mp h
  have hfits := Emit.fitsSection_of_length hsize
  obtain ⟨hfits', -⟩ := Emit.length_encode_moduleOf_le hfits (length_condense_program_le p.symbols)
  exact ⟨Module.decode_encode (Emit.encodable_moduleOf hsize), _,
    optimize_moduleOf (Emit.encodable_program p.symbols) (Emit.getLast?_program p.symbols) hfits,
    Module.decode_encode
      (Emit.encodable_moduleOf_of_fits (getLast?_condense_program p.symbols) hfits')⟩

/-- Where the module of a program ends in a trap, its condensed form comes to where it has put out
the same bytes. If condensing drops no change, then the two end in the same traps and with the same
store, so with the same bytes put out. -/
theorem optimize_traps {a : Allowance} (ha : a.interrupt? = none)
    (h : Emit.generate p .wasi = .ok bytes) (hsize : bytes.length < 2 ^ 32) (input : Bytes) :
    ∃ m out m' host plain condensed,
      Module.decode bytes = .ok m ∧ Optimizer.peephole.apply a bytes = .ok out ∧
      Module.decode out = .ok m' ∧
      launch? m input = some (host, plain) ∧ launch? m' input = some (host, condensed) ∧
      (∀ t store, TrapsWith host t store plain → Delivers host store.output condensed) ∧
      (dropsFrom 0 (Emit.program p.symbols) [] = false →
        ∀ t store, TrapsWith host t store condensed ↔ TrapsWith host t store plain) := by
  obtain ⟨hdecode, out, hout, hdecode'⟩ := optimize_generate h hsize
  have hcode := Instr.decodeAll_encodeAll (Emit.encodable_program p.symbols)
  have hw := wellShaped_of_decodeAll hcode
  have hbalanced : Balanced (p.symbols.filterMap Symbol.ofByte?) := by
    obtain ⟨m, hbuild, -⟩ := except_bind_ok_iff.mp h
    exact p.check_eq_ok_iff.mp ((Emit.build_eq_ok_iff p m).mp hbuild).1.2
  have happly : Optimizer.peephole.apply a bytes = .ok out := by
    change optimize a.interrupt? bytes = _
    rw [ha, hout]
  refine ⟨_, out, _, _, _, _, hdecode, happly, hdecode', Emit.launch?_moduleOf p.symbols input,
    Emit.launch?_of_decodeAll (decodeAll_condense hcode) input, ?_, ?_⟩
  · intro t store ht
    have hreduces : Reduces _ _ := reduces_condense hw
    exact hreduces.delivers ht.delivers
  · intro hdrops t store
    exact trapsWith_condense_iff hw hdrops (not_sticks_initial hbalanced input)

end Programs

/-! Programs that walk off the left end of the tape. -/

theorem generate_walkOff (bs : Bytes) (h : Emit.faultFrom (walkOff bs).symbols 0 [] = none) :
    Emit.generate (walkOff bs) .wasi =
      .ok (Emit.moduleOf (Instr.encodeAll (Emit.program (walkOff bs).symbols))).encode := by
  unfold Emit.generate Emit.build
  rw [h]
  rfl

/-- Off the tape an increment traps, also after the moves have been condensed to one. -/
theorem optimize_traps_walkOff :
    ∃ bytes, Emit.generate (walkOff [43]) .wasi = .ok bytes ∧ bytes.length < 2 ^ 32 ∧
      dropsFrom 0 (Emit.program (walkOff [43]).symbols) [] = false ∧
      ∃ m out m' host plain condensed,
        Module.decode bytes = .ok m ∧ Optimizer.peephole.apply .ample bytes = .ok out ∧
        Module.decode out = .ok m' ∧
        launch? m [] = some (host, plain) ∧ launch? m' [] = some (host, condensed) ∧
        ∃ store, store.output = #[] ∧ TrapsWith host .outOfBounds store plain ∧
          TrapsWith host .outOfBounds store condensed := by
  have hgenerate := generate_walkOff [43] (by decide +kernel)
  have hsize : (Emit.moduleOf (Instr.encodeAll
      (Emit.program (walkOff [43]).symbols))).encode.length < 2 ^ 32 := by decide +kernel
  have hdrops : dropsFrom 0 (Emit.program (walkOff [43]).symbols) [] = false := by decide +kernel
  have ha : Allowance.ample.interrupt? = none := rfl
  obtain ⟨m, out, m', host, plain, condensed, hm, hout, hm', hplain, hcondensed, -, htraps⟩ :=
    optimize_traps ha hgenerate hsize []
  refine ⟨_, hgenerate, hsize, hdrops, m, out, m', host, plain, condensed, hm, hout, hm', hplain,
    hcondensed, ⟨Memory.zeroed 196608, [], #[]⟩, rfl, ?_⟩
  obtain rfl := Except.ok.inj ((optimize_generate hgenerate hsize).1.symm.trans hm)
  rw [Emit.launch?_moduleOf] at hplain
  obtain ⟨rfl, rfl⟩ := Prod.mk.inj (Option.some.inj hplain)
  have htrap := trapsWith_walkOff [] []
  exact ⟨htrap, (htraps hdrops _ _).mpr htrap⟩

/-- An increment and a decrement off the tape trap, but condensing drops them both, and the program
finishes. -/
theorem optimize_loses_trap :
    ∃ bytes m out m' host plain condensed r,
      Emit.generate (walkOff [43, 45]) .wasi = .ok bytes ∧
      Module.decode bytes = .ok m ∧ Optimizer.peephole.apply .ample bytes = .ok out ∧
      Module.decode out = .ok m' ∧
      launch? m [] = some (host, plain) ∧ launch? m' [] = some (host, condensed) ∧
      Traps host plain ∧ Finishes host condensed r := by
  have hgenerate := generate_walkOff [43, 45] (by decide +kernel)
  have hsize : (Emit.moduleOf (Instr.encodeAll
      (Emit.program (walkOff [43, 45]).symbols))).encode.length < 2 ^ 32 := by decide +kernel
  have hcondense : condense (Emit.program (walkOff [43, 45]).symbols) =
      Emit.prologue ++ ((Group.move Emit.Var.cell (-1028)).code ++ Emit.epilogue) := by
    decide +kernel
  obtain ⟨hm, out, hout, hm'⟩ := optimize_generate hgenerate hsize
  have hcode := Instr.decodeAll_encodeAll (Emit.encodable_program (walkOff [43, 45]).symbols)
  have hlaunch := Emit.launch?_of_decodeAll (decodeAll_condense hcode) []
  rw [hcondense] at hlaunch hm'
  -- What is left of the program is one move and the code that every program ends with.
  have hmove := yields_move Emit.host ⟨Memory.zeroed 196608, [], #[]⟩ (-1028)
    (rfl : (Emit.vars 1024 0)[Emit.Var.cell.toNat]? = some (.i32 1024))
  obtain ⟨memory, last, r, -, -, -, hsteps, hlast⟩ :=
    @Emit.steps_epilogue (1024 + (-1028 : Int32).toUInt32) 0 (Memory.zeroed 196608) [] #[]
      (by rw [Memory.size_zeroed]; decide) (by decide)
  have hreach := Emit.steps_prologue.to_reflTransGen.trans
    ((hmove Emit.epilogue [.forward 0 []] [] (List.cons_ne_nil _ _)).trans hsteps.to_reflTransGen)
  refine ⟨_, _, out, _, _, _, _, r, hgenerate, hm, hout, hm', Emit.launch?_moduleOf _ [], hlaunch,
    (trapsWith_walkOff [45] []).traps, (finishes_iff_of_reaches hreach).mpr ⟨1, ?_⟩⟩
  rw [run, hlast]

end TapeWasm.Peephole
