import TapeWasm.Proofs.Emit.Module
import TapeWasm.Proofs.Typing.Safety

/-!
The code of programs is accepted by the checker. Between symbols the operand stack is empty, an
opening bracket opens a block and a loop, and a closing one closes both.
-/
namespace TapeWasm.Emit

open Wasm

/-- What the code of a program may refer to, in a module with the given body. -/
def scope (body : Bytes) : Scope where
  module := moduleOf body
  locals := [.i32, .i32, .i32, .i32]
  results := []

/-- A block at the bottom of an empty operand stack. -/
def emptyFrame (kind : FrameKind) : Frame :=
  ⟨kind, {}, 0, false⟩

variable {body : Bytes} {kind : FrameKind} {fs : List Frame}

theorem checks_symbol {s : Symbol} (h : s ≠ .opening) (h' : s ≠ .closing) :
    (scope body).Checks (symbol s) ⟨[], emptyFrame kind :: fs⟩ ⟨[], emptyFrame kind :: fs⟩ := by
  refine (Scope.stepsFrom_eq_ok_iff (n := 0)).mp ?_
  cases s with
  | opening | closing => contradiction
  | left | right | inc | dec | output | input => rfl

theorem checks_openLoop :
    (scope body).Checks openLoop ⟨[], emptyFrame kind :: fs⟩
      ⟨[], emptyFrame .loop :: emptyFrame .block :: emptyFrame kind :: fs⟩ :=
  (Scope.stepsFrom_eq_ok_iff (n := 0)).mp rfl

theorem checks_closeLoop :
    (scope body).Checks closeLoop ⟨[], emptyFrame .loop :: emptyFrame .block :: fs⟩ ⟨[], fs⟩ :=
  (Scope.stepsFrom_eq_ok_iff (n := 0)).mp rfl

/-- The code of matching brackets leaves the blocks around it as they are. -/
theorem checks_symbols {a : List Symbol} (h : Balanced a) :
    (scope body).Checks (a.flatMap symbol) ⟨[], emptyFrame kind :: fs⟩
      ⟨[], emptyFrame kind :: fs⟩ := by
  induction h generalizing kind fs with
  | nil => rfl
  | cons h h' _ ih => exact Scope.checks_append.mpr ⟨_, checks_symbol h h', ih⟩
  | @loop inner r _ _ ihInner ih =>
    rw [List.flatMap_cons, List.flatMap_append, List.flatMap_cons]
    refine Scope.checks_append.mpr ⟨_, checks_openLoop, ?_⟩
    refine Scope.checks_append.mpr ⟨_, ihInner, ?_⟩
    exact Scope.checks_append.mpr ⟨_, checks_closeLoop, ih⟩

/-- The code of a program with matching brackets is accepted. -/
theorem checkCode_program {bs : Bytes} (h : Balanced (bs.filterMap Symbol.ofByte?)) :
    (scope body).checkCode (program bs) = .ok () := by
  refine Scope.checkCode_eq_ok_iff.mpr ⟨[], ?_⟩
  rw [program, symbols_eq]
  refine Scope.checks_append.mpr ⟨⟨[], [emptyFrame .block]⟩, ?_, ?_⟩
  · refine Scope.checks_append.mpr ⟨_, ?_, checks_symbols h⟩
    exact (Scope.stepsFrom_eq_ok_iff (n := 0)).mp rfl
  · exact (Scope.stepsFrom_eq_ok_iff (n := 0)).mp rfl

theorem runnable_symbol (s : Symbol) :
    ∀ i ∈ symbol s, i.Runnable (moduleOf body) [.read, .write] := by
  cases s
  all_goals
    simp only [symbol, moveBy, addToCell, readCell, output, flush, transfer, input, openLoop,
      closeLoop, List.cons_append, List.nil_append, List.forall_mem_cons, List.not_mem_nil,
      false_imp_iff, implies_true, and_true]
    repeat' constructor

/-- The code of programs is made of instructions that the machine can run. -/
theorem runnable_program (bs : Bytes) :
    ∀ i ∈ program bs, i.Runnable (moduleOf body) [.read, .write] := by
  have hends : ∀ i ∈ prologue ++ epilogue, i.Runnable (moduleOf body) [.read, .write] := by
    simp only [prologue, epilogue, flush, transfer, List.cons_append, List.nil_append,
      List.forall_mem_cons, List.not_mem_nil, false_imp_iff, implies_true, and_true]
    repeat' constructor
  intro i hi
  rw [program, symbols_eq] at hi
  simp only [List.mem_append, List.mem_flatMap] at hi hends
  obtain (hi | ⟨s, -, hi⟩) | hi := hi
  · exact hends i (.inl hi)
  · exact runnable_symbol s i hi
  · exact hends i (.inr hi)

theorem checkBody_program {bs : Bytes} (h : Balanced (bs.filterMap Symbol.ofByte?)) :
    (moduleOf body).checkBody startType
      { locals := [⟨Var.count, .i32⟩], code := Instr.encodeAll (program bs) } = .ok () :=
  Module.checkBody_eq_ok_iff.mpr
    ⟨program bs, Instr.decodeAll_encodeAll (encodable_program bs), checkCode_program h⟩

end TapeWasm.Emit
