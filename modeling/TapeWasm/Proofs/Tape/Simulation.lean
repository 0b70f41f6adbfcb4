import TapeWasm.Proofs.Emit.Code
import TapeWasm.Proofs.Tape.Machine

/-!
The code of a program follows the tape machine symbol by symbol: as long as the pointer is on the
tape where it matters, the cells, the streams and the open loops of the two stay the same.
-/
namespace TapeWasm

open Wasm Emit

/-! Addresses of cells. -/

namespace Layout

theorem toNat_cellAddress (i : Int) :
    ((standard.cellAddress i).toNat : Int) = (1024 + 4 * i) % 4294967296 := by
  simp only [cellAddress, standard, UInt32.toNat_add, UInt32.toNat_mul, UInt32.toNat_ofNat',
    UInt32.reduceToNat, UInt32.size]
  omega

@[simp] theorem cellAddress_succ (i : Int) :
    standard.cellAddress (i + 1) = standard.cellAddress i + 4 := by
  have h := toNat_cellAddress i
  have h' := toNat_cellAddress (i + 1)
  apply UInt32.toNat_inj.mp
  simp only [UInt32.toNat_add, UInt32.reduceToNat]
  omega

@[simp] theorem cellAddress_pred (i : Int) :
    standard.cellAddress (i - 1) = standard.cellAddress i - 4 := by
  rw [eq_comm, UInt32.sub_eq_iff_eq_add, ← cellAddress_succ, Int.sub_add_cancel]

theorem cellAddress_of_lt {i : Nat} (h : i < 48896) :
    (standard.cellAddress i).toNat = 1024 + 4 * i := by
  have := toNat_cellAddress i
  omega

end Layout

/-- The tape in a memory holds the cells of a tape machine. -/
structure HoldsTape (memory : Memory) (cells : Int → UInt32) : Prop where
  size : memory.size = 196608
  word? : ∀ i : Nat, i < 48896 → memory.word? (1024 + 4 * i) = some (cells i)

namespace HoldsTape

variable {memory memory' : Memory} {cells : Int → UInt32}

theorem zeroed : HoldsTape (Memory.zeroed 196608) fun _ => 0 :=
  ⟨Memory.size_zeroed _, fun i hi => Memory.word?_zeroed (by omega)⟩

theorem congr (h : HoldsTape memory cells) (hsize : memory'.size = memory.size)
    (hat : ∀ i, 1024 ≤ i → memory'.at_ i = memory.at_ i) : HoldsTape memory' cells where
  size := by rw [hsize, h.size]
  word? i hi := by
    rw [Memory.word?_congr hsize fun j hj _ => hat j (by omega), h.word? i hi]

/-- A write inside one cell changes the cell to what is read from it then. -/
theorem update (h : HoldsTape memory cells) {i : Nat} (hi : i < 48896) {v : UInt32}
    (hsize : memory'.size = memory.size) (hv : memory'.word? (1024 + 4 * i) = some v)
    (hat : ∀ j, j < 1024 + 4 * i ∨ 1024 + 4 * i + 4 ≤ j → memory'.at_ j = memory.at_ j) :
    HoldsTape memory' (Function.update cells i v) where
  size := by rw [hsize, h.size]
  word? j hj := by
    by_cases he : j = i
    · subst he
      rw [Function.update_self, hv]
    · rw [Function.update_of_ne (by omega), ← h.word? j hj]
      exact Memory.word?_congr hsize fun k hk _ => hat k (by omega)

theorem setWord (h : HoldsTape memory cells) {i : Nat} (hi : i < 48896) (v : UInt32) :
    HoldsTape (memory.setWord (1024 + 4 * i) v) (Function.update cells i v) :=
  h.update hi (Memory.size_setWord _ _ _)
    (Memory.word?_setWord_self v (by rw [h.size]; omega)) fun _ hj => Memory.at_setWord v hj

theorem replaceLow (h : HoldsTape memory cells) {i : Nat} (hi : i < 48896) (b : UInt8) :
    HoldsTape (memory.fill (1024 + 4 * i) [b])
      (Function.update cells i (TapeMachine.replaceLow (cells i) b)) :=
  h.update hi (Memory.size_fill _ _ _) (Memory.word?_fill_singleton b (h.word? i hi))
    fun _ hj => Memory.at_fill_outside (by simp; omega)

end HoldsTape

theorem Emit.Buffered.congr {bytes : Bytes} {memory memory' : Memory} {cursor : UInt32}
    {output : Array UInt8} (h : Buffered bytes memory cursor output)
    (hat : ∀ i, i < 1000 → memory'.at_ i = memory.at_ i) :
    Buffered bytes memory' cursor output where
  room := h.room
  whole := h.whole
  eq := by
    have := h.room
    rw [Memory.leading_congr fun i hi => hat i (by omega), h.eq]

/-! The machine that runs the code of a tape machine. -/

def codeOf (symbols : List Symbol) : List Instr :=
  symbols.flatMap symbol ++ epilogue

def labelsOf : List (List Symbol) → List Wasm.Label
  | [] => [.forward 0 []]
  | body :: outer => .back [] (codeOf body) :: .forward 0 [] :: labelsOf outer

def machineAt (t : TapeMachine) (cursor : UInt32) (memory : Memory) (output : Array UInt8) :
    Machine :=
  ⟨codeOf t.code, labelsOf t.loops, [], vars (Layout.standard.cellAddress t.pointer) cursor,
    ⟨memory, t.input, output⟩⟩

structure Simulates (t : TapeMachine) (cursor : UInt32) (memory : Memory)
    (output : Array UInt8) : Prop where
  tape : HoldsTape memory t.cells
  buffered : Buffered t.output memory cursor output

@[simp] theorem codeOf_cons (s : Symbol) (r : List Symbol) : codeOf (s :: r) = symbol s ++ codeOf r := by
  simp [codeOf]

theorem exists_labelsOf_eq_cons (loops : List (List Symbol)) :
    ∃ l labels, labelsOf loops = l :: labels := by
  cases loops <;> exact ⟨_, _, rfl⟩

/-- The end of a loop is where the machine looks for it: two blocks deep for each open bracket. -/
theorem afterEnd_codeOf {d : Nat} {code rest : List Symbol}
    (h : TapeMachine.afterLoop d code = some rest) :
    Machine.afterEnd (2 * d + 1) (codeOf code) = some (codeOf rest) := by
  induction code generalizing d with
  | nil => simp [TapeMachine.afterLoop] at h
  | cons s r ih =>
    rw [codeOf_cons]
    cases s with
    | opening => exact ih (d := d + 1) h
    | closing =>
      cases d with
      | zero =>
        obtain rfl : r = rest := Option.some.inj h
        rfl
      | succ d => exact ih h
    | _ => exact ih h

/-- The cell at a pointer on the tape, by its index and where the memory has it. -/
theorem HoldsTape.cell {memory : Memory} {cells : Int → UInt32} (h : HoldsTape memory cells)
    {p : Int} (hp : 0 ≤ p ∧ p < Layout.standard.cells) :
    ∃ i : Nat, p = i ∧ i < 48896 ∧ (Layout.standard.cellAddress p).toNat = 1024 + 4 * i ∧
      memory.word? (Layout.standard.cellAddress p).toNat = some (cells p) := by
  obtain ⟨i, rfl⟩ := Int.eq_ofNat_of_zero_le hp.1
  have hi : i < 48896 := by
    have hcells : Layout.standard.cells = 48896 := by decide
    omega
  have ha := Layout.cellAddress_of_lt hi
  exact ⟨i, rfl, hi, ha, by rw [ha]; exact h.word? i hi⟩

variable {t t' : TapeMachine} {cursor : UInt32} {memory : Memory} {output : Array UInt8}

/-- One machine follows another if it comes, in at least one step and with orderly effects, to where
it simulates it. -/
def Follows (m : Machine) (t' : TapeMachine) : Prop :=
  ∃ cursor memory output es, Machine.Emits host m es (machineAt t' cursor memory output) ∧
    Orderly es m.store.output output ∧ Simulates t' cursor memory output

namespace Simulates

theorem write (h : Simulates t cursor memory output)
    (hp : 0 ≤ t.pointer ∧ t.pointer < Layout.standard.cells) (v : UInt32) :
    Simulates (t.write v) cursor
      (memory.setWord (Layout.standard.cellAddress t.pointer).toNat v) output := by
  obtain ⟨i, hpi, hi, ha, -⟩ := h.tape.cell hp
  rw [ha]
  refine ⟨?_, h.buffered.congr fun j hj => Memory.at_setWord v (by omega)⟩
  have := h.tape.setWord hi v
  rwa [← hpi] at this

/-- What one symbol does to the tape machine, its code does to the machine that runs it. -/
theorem perform {s : Symbol} {code : List Symbol} (h : Simulates t cursor memory output)
    (hp : s ≠ .left → s ≠ .right → 0 ≤ t.pointer ∧ t.pointer < Layout.standard.cells)
    (hstep : TapeMachine.perform s { t with code } = some t') :
    Follows (machineAt { t with code := s :: code } cursor memory output) t' := by
  have hsize : 1024 ≤ memory.size := by rw [h.tape.size]; decide
  obtain ⟨l, labels, hlabels⟩ := exists_labelsOf_eq_cons t.loops
  unfold machineAt
  rw [codeOf_cons]
  cases s with
  | left =>
    obtain rfl := Option.some.inj hstep
    refine ⟨cursor, memory, output, [], ?_, .quiet output, h.tape, h.buffered⟩
    rw [machineAt, Layout.cellAddress_pred]
    exact steps_moveBy_sub
  | right =>
    obtain rfl := Option.some.inj hstep
    refine ⟨cursor, memory, output, [], ?_, .quiet output, h.tape, h.buffered⟩
    rw [machineAt, Layout.cellAddress_succ]
    exact steps_moveBy_add
  | inc =>
    obtain rfl := Option.some.inj hstep
    have hp := hp (by decide) (by decide)
    obtain ⟨-, -, -, -, hv⟩ := h.tape.cell hp
    have hw := h.write hp (t.cell + 1)
    exact ⟨cursor, _, output, [], steps_addToCell_add hv, .quiet output, hw.tape, hw.buffered⟩
  | dec =>
    obtain rfl := Option.some.inj hstep
    have hp := hp (by decide) (by decide)
    obtain ⟨-, -, -, -, hv⟩ := h.tape.cell hp
    have hw := h.write hp (t.cell - 1)
    exact ⟨cursor, _, output, [], steps_addToCell_sub hv, .quiet output, hw.tape, hw.buffered⟩
  | output =>
    obtain rfl := Option.some.inj hstep
    obtain ⟨-, -, -, -, hv⟩ := h.tape.cell (hp (by decide) (by decide))
    obtain ⟨memory', cursor', output', es, hsize', hat, -, hbuffered, horderly, hsteps⟩ :=
      @steps_output (codeOf code) labels l _ _ _ _ t.input output hsize hv h.buffered.room
    rw [← hlabels] at hsteps
    exact ⟨cursor', memory', output', es, hsteps, horderly, h.tape.congr hsize' hat,
      hbuffered _ h.buffered⟩
  | input =>
    have hp := hp (by decide) (by decide)
    obtain ⟨i, hpi, hi, ha, hv⟩ := h.tape.cell hp
    obtain ⟨memory', hsize', hat, hsteps⟩ := @steps_input (codeOf code) (labelsOf t.loops)
      (Layout.standard.cellAddress t.pointer) cursor memory t.input output hsize
      (by have := Memory.size_of_word? hv; omega)
    rw [ha] at hat
    have hbuffered : Buffered t.output memory' cursor output := by
      refine h.buffered.congr fun j hj => ?_
      rw [hat j (by omega), Memory.at_fill_outside (by omega)]
    obtain ⟨_, _, _, _, input, _⟩ := t
    cases input with
    | nil =>
      obtain rfl := Option.some.inj hstep
      exact ⟨cursor, memory', output, [], hsteps, .quiet output,
        h.tape.congr hsize' fun j hj => hat j (by omega), hbuffered⟩
    | cons b r =>
      obtain rfl := Option.some.inj hstep
      have htape := (h.tape.replaceLow hi b).congr (by rw [hsize', Memory.size_fill])
        fun j hj => hat j (by omega)
      rw [← hpi] at htape
      exact ⟨cursor, memory', output, [], hsteps, .quiet output, htape, hbuffered⟩
  | opening =>
    obtain ⟨-, -, -, -, hv⟩ := h.tape.cell (hp (by decide) (by decide))
    rw [TapeMachine.perform] at hstep
    split at hstep
    · rename_i hz
      obtain ⟨rest, hrest, rfl⟩ := Option.map_eq_some_iff.mp hstep
      have hsteps := @steps_openLoop_skip (codeOf code) labels l _ cursor
        ⟨memory, t.input, output⟩ (hv.trans (congrArg some hz)) _ (afterEnd_codeOf hrest)
      rw [← hlabels] at hsteps
      exact ⟨cursor, memory, output, [], hsteps, .quiet output, h.tape, h.buffered⟩
    · rename_i hz
      obtain rfl := Option.some.inj hstep
      exact ⟨cursor, memory, output, [], steps_openLoop_enter hv hz, .quiet output, h.tape,
        h.buffered⟩
  | closing =>
    obtain ⟨-, -, -, -, hv⟩ := h.tape.cell (hp (by decide) (by decide))
    obtain ⟨_, loops, _, _, input, _⟩ := t
    cases loops with
    | nil => simp [TapeMachine.perform] at hstep
    | cons body outer =>
      simp only [TapeMachine.perform] at hstep
      split at hstep
      · rename_i hz
        obtain rfl := Option.some.inj hstep
        obtain ⟨l, labels, hlabels⟩ := exists_labelsOf_eq_cons outer
        have hsteps := @steps_closeLoop_leave (codeOf code) labels l _ cursor
          ⟨memory, input, output⟩ (hv.trans (congrArg some hz)) (codeOf body)
        rw [← hlabels] at hsteps
        exact ⟨cursor, memory, output, [], hsteps, .quiet output, h.tape, h.buffered⟩
      · rename_i hz
        obtain rfl := Option.some.inj hstep
        exact ⟨cursor, memory, output, [], steps_closeLoop_again hv hz, .quiet output, h.tape,
          h.buffered⟩

theorem step (h : Simulates t cursor memory output) (hon : t.OnTape)
    (hstep : t.step = some t') : Follows (machineAt t cursor memory output) t' := by
  obtain ⟨code, _, _, _, _, _⟩ := t
  cases code with
  | nil => simp [TapeMachine.step] at hstep
  | cons s code => exact h.perform (hon s rfl) hstep

/-- A run of the tape machine is followed by a run of its code. -/
theorem reaches (h : Simulates t cursor memory output) (ht : t.Reaches t')
    (hon : ∀ r, t.Reaches r → r.OnTape) :
    ∃ cursor' memory' output', Machine.Reaches host (machineAt t cursor memory output)
      (machineAt t' cursor' memory' output') ∧ Simulates t' cursor' memory' output' := by
  induction ht with
  | refl => exact ⟨cursor, memory, output, .refl, h⟩
  | tail hreach hstep ih =>
    obtain ⟨_, _, _, hsteps, h'⟩ := ih
    obtain ⟨_, _, _, _, hsteps', -, h''⟩ := h'.step (hon _ hreach) hstep
    exact ⟨_, _, _, hsteps.trans hsteps'.to_reflTransGen, h''⟩

/-- A machine without symbols left is followed by the end of the run, with the same output, input
and cells. -/
theorem finishes (h : Simulates t cursor memory output) (hcode : t.code = [])
    (hloops : t.loops = []) :
    ∃ r, Machine.Finishes host (machineAt t cursor memory output) r ∧
      r.store.output.toList = t.output ∧ r.store.input = t.input ∧
      HoldsTape r.store.memory t.cells := by
  have hroom := h.buffered.room
  obtain ⟨memory', m, r, hsize, hat, hstore, hsteps, hfin⟩ :=
    @steps_epilogue (Layout.standard.cellAddress t.pointer) cursor memory t.input output
      (by rw [h.tape.size]; decide) (by omega)
  have hrun : Machine.Finishes host m r := ⟨1, by rw [Machine.run, hfin]⟩
  refine ⟨r, ?_, ?_, ?_, ?_⟩
  · rw [machineAt, hcode, hloops]
    exact (Machine.finishes_iff_of_reaches hsteps.to_reflTransGen).mpr hrun
  · rw [hstore, ← h.buffered.eq]
    simp
  · rw [hstore]
  · rw [hstore]
    exact h.tape.congr hsize hat

/-- If the code of a nested machine finishes, so does the machine. -/
theorem exists_finishes (h : Simulates t cursor memory output) (hnest : t.Nested)
    (hon : ∀ r, t.Reaches r → r.OnTape) {n : Nat} {w : Machine}
    (hn : Machine.run host n (machineAt t cursor memory output) = .finished w) :
    ∃ r, t.Finishes r := by
  induction n using Nat.strongRecOn generalizing t cursor memory output with
  | ind n ih =>
    by_cases hcode : t.code = []
    · exact ⟨t, .refl, hcode⟩
    · obtain ⟨t', hstep, hnest'⟩ := hnest.step hcode
      obtain ⟨_, _, _, _, hsteps, -, h'⟩ := h.step (hon t .refl) hstep
      obtain ⟨m₁, hnext, hreach⟩ := Relation.TransGen.head'_iff.mp hsteps.transGen
      obtain ⟨k, hk, hrun⟩ := Machine.run_lt_of_steps hnext hreach (o := .finished w) trivial hn
      obtain ⟨r, hr, hend⟩ := ih k hk h' hnest' (fun r hr => hon r (.head hstep hr)) hrun
      exact ⟨r, .head hstep hr, hend⟩

end Simulates
end TapeWasm
