import TapeWasm.Proofs.Emit.Typing
import TapeWasm.Proofs.Peephole.Effect

/-!
Condensing keeps the meaning of accepted bodies: what a body does without a trap its condensed form
does too, and the condensed form traps only where the body does.
-/
namespace TapeWasm.Peephole

open Wasm Machine

theorem Reduces.refines {a b : List Instr} (h : Reduces a b) (host : List HostCall) (arity : Nat)
    (locals : List Value) (store : Store) :
    Refines host (start a arity locals store) (start b arity locals store) := by
  induction h with
  | refl => exact .refl host _
  | tail _ hstep ih =>
    cases hstep with
    | at_ before after h => exact ih.trans ((h.replaceable host).refines before after arity)

/-- Of code that is checked against the mark nothing can be said, since it is not well typed: here a
branch makes an operand one of unknown type, which is then stored to a variable of another type. The
body gets stuck where it adds zero to that variable, and condensing takes the addition away. -/
theorem condense_traps_of_unknown_result :
    let code : List Instr :=
      [⟨Op.localGet, .localVar 0⟩, ⟨Op.i32Const, .i32 0⟩, ⟨Op.brIf, .branch 0⟩,
       ⟨Op.localSet, .localVar 1⟩] ++ moveCode 1 Op.i32Add 0 ++
      [⟨Op.unreachable, .none⟩, ⟨Op.stop, .none⟩]
    let type : FuncType := ⟨[.i64, .i32], [.unknown]⟩
    let b : Body := { code := [32, 0, 65, 0, 13, 0, 33, 1, 32, 1, 65, 0, 106, 33, 1, 0, 11] }
    let locals : List Value := [.i64 0, .i32 0]
    Module.checkBody {} type b = .ok () ∧ Instr.decodeAll b.code = .ok code ∧
      (∀ i ∈ code, i.Runnable {} []) ∧ locals.map Value.type = type.params ++ b.localTypes ∧
      ∀ store, ¬ Traps [] (start code 1 locals store) ∧
        Traps [] (start (condense code) 1 locals store) := by
  intro code type b locals
  refine ⟨rfl, rfl, ?_, rfl, fun store => ⟨?_, 5, .unreachable, _, rfl⟩⟩
  · simp only [code, moveCode, List.cons_append, List.nil_append, List.forall_mem_cons]
    exact ⟨.localGet 0, .const 0, .brIf 0, .localSet 1, .localGet 1, .const 0, .add,
      .localSet 1, .unreachable, .stop, List.forall_mem_nil _⟩
  · rintro ⟨n, t, r, htrap⟩
    obtain ⟨r', hstuck⟩ : ∃ r, run [] 7 (start code 1 locals store) = .stuck r := ⟨_, rfl⟩
    have ho : (Outcome.stuck r').Ended := trivial
    have ho' : (Outcome.trapped t r).Ended := trivial
    exact Outcome.noConfusion (run_ended_unique ho ho' hstuck htrap)

end TapeWasm.Peephole
