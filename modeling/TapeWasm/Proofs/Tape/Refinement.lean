import TapeWasm.Proofs.Emit.Module
import TapeWasm.Proofs.Tape.Simulation

/-!
The module of a program computes what the tape machine computes.
-/
namespace TapeWasm

open Wasm Emit

variable {p : Program} {input : Bytes}

/-- After the start of its code the program comes to where its symbols follow the tape machine. -/
theorem steps_initial (p : Program) (input : Bytes) :
    Steps (initial p.symbols input)
      (machineAt (TapeMachine.start p input) 0 (Memory.zeroed 196608) #[]) := by
  unfold initial Machine.start program
  rw [symbols_eq, List.append_assoc]
  exact steps_prologue

theorem simulates_start (p : Program) (input : Bytes) :
    Simulates (TapeMachine.start p input) 0 (Memory.zeroed 196608) #[] :=
  ⟨.zeroed, by decide, by decide, rfl⟩

/-- Where the tape machine finishes, the code does so too, with the same results. -/
theorem initial_finishes (h : p.check = .ok ())
    (hon : ∀ t, (TapeMachine.start p input).Reaches t → t.OnTape) {t : TapeMachine}
    (ht : (TapeMachine.start p input).Finishes t) :
    ∃ r, Machine.Finishes host (initial p.symbols input) r ∧
      r.store.output.toList = t.output ∧ r.store.input = t.input ∧
      HoldsTape r.store.memory t.cells := by
  obtain ⟨cursor, memory, output, hreach, hsim⟩ :=
    (simulates_start p input).reaches ht.1 hon
  have hnest := (TapeMachine.nested_start h input).reaches ht.1
  obtain ⟨r, hr, hresult⟩ := hsim.finishes ht.2 (hnest.loops_eq_nil ht.2)
  have hrun := (steps_initial p input).to_reflTransGen.trans hreach
  exact ⟨r, (Machine.finishes_iff_of_reaches hrun).mpr hr, hresult⟩

/-- Where the code finishes, the tape machine does so too. -/
theorem tapeMachine_finishes (h : p.check = .ok ())
    (hon : ∀ t, (TapeMachine.start p input).Reaches t → t.OnTape) {r : Machine}
    (hr : Machine.Finishes host (initial p.symbols input) r) :
    ∃ t, (TapeMachine.start p input).Finishes t := by
  obtain ⟨n, hn⟩ :=
    (Machine.finishes_iff_of_reaches (steps_initial p input).to_reflTransGen).mp hr
  exact (simulates_start p input).exists_finishes (TapeMachine.nested_start h input) hon hn

/-- Programs with matching brackets whose bytes are all symbols have modules, and as long as the
tape machine works on the tape, the module's run finishes if and only if the tape machine does, and
then both have the same output, the same rest of the input and the same cells. -/
theorem build_refines_tapeMachine (p : Program) (h : p.check = .ok ()) (input : Bytes) :
    ((∃ m, build p .wasi = .ok m) ↔ ∀ b ∈ p.symbols, inAlphabet b) ∧
    ∀ m, build p .wasi = .ok m →
      ∃ calls start, launch? m input = some (calls, start) ∧
        ((∀ t, (TapeMachine.start p input).Reaches t → t.OnTape) →
          ((∃ r, Machine.Finishes calls start r) ↔
            ∃ t, (TapeMachine.start p input).Finishes t) ∧
          ∀ r t, Machine.Finishes calls start r → (TapeMachine.start p input).Finishes t →
            r.store.output.toList = t.output ∧ r.store.input = t.input ∧
            r.store.memory.size = 196608 ∧
            ∀ i : Nat, i < 48896 → r.store.memory.word? (1024 + 4 * i) = some (t.cells i)) := by
  refine ⟨⟨fun ⟨m, hm⟩ => ((build_eq_ok_iff p m).mp hm).1.1,
    fun hb => ⟨_, (build_eq_ok_iff p _).mpr ⟨⟨hb, h⟩, rfl⟩⟩⟩, fun m hm => ?_⟩
  obtain ⟨-, rfl⟩ := (build_eq_ok_iff p m).mp hm
  refine ⟨_, _, launch?_moduleOf p.symbols input, fun hon => ⟨⟨?_, ?_⟩, ?_⟩⟩
  · rintro ⟨r, hr⟩
    exact tapeMachine_finishes h hon hr
  · rintro ⟨t, ht⟩
    obtain ⟨r, hr, -⟩ := initial_finishes h hon ht
    exact ⟨r, hr⟩
  · intro r t hr ht
    obtain ⟨r', hr', houtput, hinput, htape⟩ := initial_finishes h hon ht
    obtain rfl := hr'.unique hr
    exact ⟨houtput, hinput, htape.size, htape.word?⟩

/-- The program `,[-.]` counts down from the number that it reads. -/
theorem build_refines_tapeMachine_countdown :
    ∃ m calls start r, build ⟨[44, 91, 45, 46, 93], []⟩ .wasi = .ok m ∧
      launch? m [1, 7] = some (calls, start) ∧ Machine.Finishes calls start r ∧
      r.store.output.toList = [0] ∧ r.store.input = [7] ∧
      r.store.memory.word? 1024 = some 0 := by
  let p : Program := ⟨[44, 91, 45, 46, 93], []⟩
  let body : List Symbol := [.dec, .output, .closing]
  let cells (v : UInt32) : Int → UInt32 := Function.update (fun _ => 0) 0 v
  have hlow : TapeMachine.replaceLow 0 1 = 1 := by decide
  have hread : (TapeMachine.start p [1, 7]).step =
      some ⟨.opening :: body, [], 0, cells 1, [7], []⟩ := by
    rw [← hlow]
    rfl
  have henter : TapeMachine.step ⟨.opening :: body, [], 0, cells 1, [7], []⟩ =
      some ⟨body, [body], 0, cells 1, [7], []⟩ := by
    simp [TapeMachine.step, TapeMachine.perform, TapeMachine.cell, cells]
  have hdec : TapeMachine.step ⟨body, [body], 0, cells 1, [7], []⟩ =
      some ⟨[.output, .closing], [body], 0, cells 0, [7], []⟩ := by
    simp [TapeMachine.step, TapeMachine.perform, TapeMachine.cell, TapeMachine.write, cells, body]
  have hput : TapeMachine.step ⟨[.output, .closing], [body], 0, cells 0, [7], []⟩ =
      some ⟨[.closing], [body], 0, cells 0, [7], [0]⟩ := rfl
  have hleave : TapeMachine.step ⟨[.closing], [body], 0, cells 0, [7], [0]⟩ =
      some ⟨[], [], 0, cells 0, [7], [0]⟩ := by
    simp [TapeMachine.step, TapeMachine.perform, TapeMachine.cell, cells]
  have hon : ∀ t, (TapeMachine.start p [1, 7]).Reaches t → t.OnTape := by
    have hzero {t : TapeMachine} (h : t.pointer = 0) : t.OnTape := by
      intro _ _ _ _
      rw [h]
      decide
    exact TapeMachine.forall_reaches_of_step hread (hzero rfl) <|
      TapeMachine.forall_reaches_of_step henter (hzero rfl) <|
      TapeMachine.forall_reaches_of_step hdec (hzero rfl) <|
      TapeMachine.forall_reaches_of_step hput (hzero rfl) <|
      TapeMachine.forall_reaches_of_step hleave (hzero rfl) <|
      TapeMachine.forall_reaches_of_end rfl (hzero rfl)
  have htape : (TapeMachine.start p [1, 7]).Finishes
      ⟨[], [], 0, cells 0, [7], [0]⟩ :=
    ⟨.head hread <| .head henter <| .head hdec <| .head hput <| .single hleave, rfl⟩
  obtain ⟨hbuild, hrun⟩ := build_refines_tapeMachine p rfl [1, 7]
  obtain ⟨m, hm⟩ := hbuild.mpr (List.all_eq_true.mp rfl)
  obtain ⟨calls, start, hlaunch, hresult⟩ := hrun m hm
  obtain ⟨hiff, hresult⟩ := hresult hon
  obtain ⟨r, hr⟩ := hiff.mpr ⟨_, htape⟩
  obtain ⟨houtput, hinput, -, hcells⟩ := hresult r _ hr htape
  exact ⟨m, calls, start, r, hm, hlaunch, hr, houtput, hinput, hcells 0 (by decide)⟩

end TapeWasm
