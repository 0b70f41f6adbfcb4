import TapeWasm.Proofs.Machine.Output
import TapeWasm.Proofs.Tape.Refinement

/-!
Where the pointer may go. Nothing keeps a program on its tape: the addresses before the tape belong
to the buffer and the descriptor, and are as good for a cell as any other. A run traps if and only if
it comes to a symbol that loads a cell beyond the end of the memory. A read to such a cell is refused
by the host, and the program goes on.
-/
namespace TapeWasm

open Wasm Emit Machine

/-- The symbols whose code loads the current cell. -/
def Symbol.loadsCell : Symbol → Bool
  | left | right | input => false
  | inc | dec | output | opening | closing => true

/-- A program between two symbols: those that are left, what follows the `[` of each open loop, the
index of the current cell, which may be off the tape, the next free byte of the buffer, and the
store. -/
structure Point where
  symbols : List Symbol
  loops : List (List Symbol)
  pointer : Int
  cursor : UInt32
  store : Store

namespace Point

def cell (w : Point) : UInt32 :=
  Layout.standard.cellAddress w.pointer

def machine (w : Point) : Machine :=
  ⟨codeOf w.symbols, labelsOf w.loops, [], vars w.cell w.cursor, w.store⟩

/-- The next symbol loads the current cell, and there is no memory there. -/
def LoadsBeyond (w : Point) : Prop :=
  (∃ s ∈ w.symbols.head?, s.loadsCell) ∧ 196608 ≤ w.cell.toNat

/-- What holds between the symbols of every run, on the tape or off it. -/
structure Live (w : Point) : Prop where
  code : Closes w.loops.length w.symbols
  loops : TapeMachine.LoopsClose w.loops
  size : w.store.memory.size = 196608
  room : w.cursor.toNat < 1000

variable {w : Point}

/-- Cells are words of the memory, or lie beyond it. -/
theorem exists_word? (hsize : w.store.memory.size = 196608) (h : w.cell.toNat < 196608) :
    ∃ v, w.store.memory.word? w.cell.toNat = some v := by
  have haddress := Layout.toNat_cellAddress w.pointer
  have hle : w.cell.toNat + 4 ≤ w.store.memory.size := by
    unfold cell at h ⊢
    omega
  exact ⟨_, if_pos hle⟩

theorem word?_eq_none (hsize : w.store.memory.size = 196608) (h : 196608 ≤ w.cell.toNat) :
    w.store.memory.word? w.cell.toNat = none :=
  if_neg (by omega)

/-- The load of a cell beyond the memory is where the run ends. -/
theorem LoadsBeyond.stops (h : w.LoadsBeyond) (hsize : w.store.memory.size = 196608) :
    ∃ m r, Steps w.machine m ∧ step host m = .trapped .outOfBounds r ∧ r.store = w.store ∧
      observe host m = [] := by
  have htrap {code : List Instr} {labels : List Wasm.Label} {stack : List Value} :
      step host ⟨load :: code, labels, .i32 w.cell :: stack, vars w.cell w.cursor, w.store⟩ =
        .trapped .outOfBounds
          ⟨code, labels, .i32 w.cell :: stack, vars w.cell w.cursor, w.store⟩ := by
    change Machine.load ⟨code, labels, .i32 w.cell :: stack, _, w.store⟩ (wordAccess 0) = _
    simp only [Machine.load, show w.store.memory.word? (w.cell.toNat + (wordAccess 0).offset.toNat) =
      none from word?_eq_none hsize h.2]
  obtain ⟨⟨s, hs, hloads⟩, -⟩ := h
  obtain ⟨rest, hrest⟩ := List.head?_eq_some_iff.mp hs
  unfold machine
  rw [hrest, codeOf_cons]
  cases s with
  | left | right | input => cases hloads
  | inc | dec =>
    exact ⟨_, _, .head (next_localGet rfl) (.single (next_localGet rfl)), htrap, rfl, rfl⟩
  | output =>
    exact ⟨_, _, .head (next_localGet rfl) (.single (next_localGet rfl)), htrap, rfl, rfl⟩
  | opening => exact ⟨_, _, .head next_block (.single (next_localGet rfl)), htrap, rfl, rfl⟩
  | closing => exact ⟨_, _, .single (next_localGet rfl), htrap, rfl, rfl⟩

theorem LoadsBeyond.trapsWith (h : w.LoadsBeyond) (hsize : w.store.memory.size = 196608) :
    TrapsWith host .outOfBounds w.store w.machine := by
  obtain ⟨m, r, hsteps, hstep, hstore, -⟩ := h.stops hsize
  exact trapsWith_of_reaches hsteps.to_reflTransGen (hstore ▸ trapsWith_of_step hstep)

/-- Unless its next symbol loads a cell beyond the memory, a program comes to where it stands before
another symbol, or before its end. -/
theorem Live.step (h : w.Live) (hne : w.symbols ≠ []) (hbeyond : ¬ w.LoadsBeyond) :
    ∃ (w' : Point) (es : List Effect), Emits host w.machine es w'.machine ∧
      Orderly es w.store.output w'.store.output ∧ w'.Live := by
  obtain ⟨s, rest, hs⟩ := List.exists_cons_of_ne_nil hne
  -- A symbol that loads the cell finds a word there, be it of the tape or of what lies before it.
  have hload (hloads : s.loadsCell) : ∃ v, w.store.memory.word? w.cell.toNat = some v := by
    refine exists_word? h.size (Nat.lt_of_not_le fun hle => hbeyond ⟨⟨s, ?_, hloads⟩, hle⟩)
    rw [hs]
    rfl
  obtain ⟨symbols, loops, pointer, cursor, ⟨memory, input, output⟩⟩ := w
  obtain ⟨hcode, hloops, hsize, hroom⟩ := h
  obtain rfl : symbols = s :: rest := hs
  have hmemory : 1024 ≤ memory.size := Nat.le_trans (by decide) (Nat.le_of_eq hsize.symm)
  obtain ⟨l, labels, hlabels⟩ := exists_labelsOf_eq_cons loops
  unfold machine
  rw [codeOf_cons]
  cases s with
  | left =>
    refine ⟨⟨rest, loops, pointer - 1, cursor, ⟨memory, input, output⟩⟩, [], ?_, .quiet output,
      hcode, hloops, hsize, hroom⟩
    unfold cell
    rw [Layout.cellAddress_pred]
    exact steps_moveBy_sub
  | right =>
    refine ⟨⟨rest, loops, pointer + 1, cursor, ⟨memory, input, output⟩⟩, [], ?_, .quiet output,
      hcode, hloops, hsize, hroom⟩
    unfold cell
    rw [Layout.cellAddress_succ]
    exact steps_moveBy_add
  | inc =>
    obtain ⟨v, hv⟩ := hload rfl
    exact ⟨⟨rest, loops, pointer, cursor, ⟨memory.setWord _ (v + 1), input, output⟩⟩, [],
      steps_addToCell_add hv, .quiet output, hcode, hloops, (Memory.size_setWord _ _ _).trans hsize,
      hroom⟩
  | dec =>
    obtain ⟨v, hv⟩ := hload rfl
    exact ⟨⟨rest, loops, pointer, cursor, ⟨memory.setWord _ (v - 1), input, output⟩⟩, [],
      steps_addToCell_sub hv, .quiet output, hcode, hloops, (Memory.size_setWord _ _ _).trans hsize,
      hroom⟩
  | output =>
    obtain ⟨v, hv⟩ := hload rfl
    obtain ⟨memory', cursor', output', es, hsize', -, hroom', -, horderly, hsteps⟩ :=
      @steps_output (codeOf rest) labels l _ _ _ _ input output hmemory hv hroom
    rw [← hlabels] at hsteps
    exact ⟨⟨rest, loops, pointer, cursor', ⟨memory', input, output'⟩⟩, es, hsteps, horderly, hcode,
      hloops, hsize'.trans hsize, hroom'⟩
  | input =>
    by_cases hcell : memory.size ≤ (Layout.standard.cellAddress pointer).toNat
    · exact ⟨⟨rest, loops, pointer, cursor, ⟨_, input, output⟩⟩, [],
        steps_input_beyond hmemory hcell, .quiet output, hcode, hloops,
        by simpa using hsize, hroom⟩
    · obtain ⟨memory', hsize', -, hsteps⟩ := @steps_input (codeOf rest) (labelsOf loops) _ cursor
        memory input output hmemory (Nat.lt_of_not_le hcell)
      exact ⟨⟨rest, loops, pointer, cursor, ⟨memory', input.drop 1, output⟩⟩, [], hsteps,
        .quiet output, hcode, hloops, hsize'.trans hsize, hroom⟩
  | opening =>
    obtain ⟨v, hv⟩ := hload rfl
    by_cases hz : v = 0
    · obtain ⟨after, hafter, hclose⟩ := TapeMachine.exists_afterLoop (d := 0) hcode
      have hsteps := @steps_openLoop_skip (codeOf rest) labels l _ cursor ⟨memory, input, output⟩
        (hv.trans (congrArg some hz)) _ (afterEnd_codeOf hafter)
      rw [← hlabels] at hsteps
      exact ⟨⟨after, loops, pointer, cursor, ⟨memory, input, output⟩⟩, [], hsteps, .quiet output,
        hclose, hloops, hsize, hroom⟩
    · exact ⟨⟨rest, rest :: loops, pointer, cursor, ⟨memory, input, output⟩⟩, [],
        steps_openLoop_enter hv hz, .quiet output, hcode, ⟨hcode, hloops⟩, hsize, hroom⟩
  | closing =>
    obtain ⟨v, hv⟩ := hload rfl
    cases loops with
    | nil => exact absurd hcode not_false
    | cons body outer =>
      by_cases hz : v = 0
      · obtain ⟨l, labels, hlabels⟩ := exists_labelsOf_eq_cons outer
        have hsteps := @steps_closeLoop_leave (codeOf rest) labels l _ cursor
          ⟨memory, input, output⟩ (hv.trans (congrArg some hz)) (codeOf body)
        rw [← hlabels] at hsteps
        exact ⟨⟨rest, outer, pointer, cursor, ⟨memory, input, output⟩⟩, [], hsteps, .quiet output,
          hcode, hloops.2, hsize, hroom⟩
      · exact ⟨⟨body, body :: outer, pointer, cursor, ⟨memory, input, output⟩⟩, [],
          steps_closeLoop_again hv hz, .quiet output, hloops.1, hloops, hsize, hroom⟩

/-- A program without symbols left writes out its buffer and finishes. -/
theorem Live.finishes (h : w.Live) (hnil : w.symbols = []) :
    ∃ m r, Emits host w.machine [.wrote (w.store.memory.leading w.cursor.toNat)] m ∧
      Machine.step host m = .finished r ∧
      r.store.output = w.store.output ++ (w.store.memory.leading w.cursor.toNat).toArray := by
  obtain ⟨symbols, loops, pointer, cursor, ⟨memory, input, output⟩⟩ := w
  obtain ⟨hcode, -, hsize, hroom⟩ := h
  obtain rfl : symbols = [] := hnil
  obtain rfl : loops = [] := List.eq_nil_of_length_eq_zero hcode
  obtain ⟨_, m, r, -, -, hstore, hsteps, hstep⟩ :=
    @steps_epilogue (Layout.standard.cellAddress pointer) cursor memory input output
      (Nat.le_trans (by decide) (Nat.le_of_eq hsize.symm)) (Nat.le_of_lt hroom)
  exact ⟨m, r, hsteps, hstep, congrArg Store.output hstore⟩

/-- Induction along a run, on the steps that it is followed for: from one point to the next they
become fewer. -/
theorem Live.induction {P : Nat → Point → Prop}
    (beyond : ∀ (k : Nat) (w : Point), w.Live → w.LoadsBeyond → P k w)
    (ended : ∀ (k : Nat) (w : Point), w.Live → w.symbols = [] → P k w)
    (next : ∀ (k : Nat) (w w' : Point) (es : List Effect), Emits host w.machine es w'.machine →
      Orderly es w.store.output w'.store.output → (∀ n < k, P n w') → P k w)
    (h : w.Live) (k : Nat) : P k w := by
  induction k using Nat.strongRecOn generalizing w with
  | ind k ih =>
    by_cases hbeyond : w.LoadsBeyond
    · exact beyond k w h hbeyond
    by_cases hnil : w.symbols = []
    · exact ended k w h hnil
    · obtain ⟨w', es, hsteps, horderly, hlive⟩ := h.step hnil hbeyond
      exact next k w w' es hsteps horderly fun n hn => ih n hn hlive

/-- A run that traps has come to the load of a cell beyond the memory. -/
theorem Live.exists_loadsBeyond (h : w.Live) {n : Nat} {t : Trap} {e : Machine}
    (hn : run host n w.machine = .trapped t e) :
    ∃ w' : Point, Reaches host w.machine w'.machine ∧ w'.LoadsBeyond := by
  have htrap : (Outcome.trapped t e).Ended := trivial
  refine h.induction (P := fun n w => run host n w.machine = .trapped t e →
    ∃ w' : Point, Reaches host w.machine w'.machine ∧ w'.LoadsBeyond) ?_ ?_ ?_ n hn
  · intro _ w _ hbeyond _
    exact ⟨w, .refl, hbeyond⟩
  · -- A run cannot both finish and trap.
    intro n w hlive hnil hn
    obtain ⟨m, r, hsteps, hstep, -⟩ := hlive.finishes hnil
    have hfin : (Outcome.finished r).Ended := trivial
    obtain ⟨k, hk⟩ := (finishes_iff_of_reaches hsteps.to_reflTransGen).mpr
      ⟨1, show run host 1 m = .finished r by rw [run, hstep]⟩
    exact Outcome.noConfusion (run_ended_unique hfin htrap hk hn)
  · intro n w w₁ es hsteps _ ih hn
    obtain ⟨m₁, hnext, hreach⟩ := Relation.TransGen.head'_iff.mp hsteps.transGen
    obtain ⟨k, hk, hrun⟩ := run_lt_of_steps hnext hreach htrap hn
    obtain ⟨w', hreach', hbeyond⟩ := ih k hk hrun
    exact ⟨w', hsteps.to_reflTransGen.trans hreach', hbeyond⟩

def start (p : Program) (input : Bytes) : Point where
  symbols := p.symbols.filterMap Symbol.ofByte?
  loops := []
  pointer := 0
  cursor := 0
  store := ⟨Memory.zeroed 196608, input, #[]⟩

theorem live_start {p : Program} (h : p.check = .ok ()) (input : Bytes) : (start p input).Live :=
  let nested := TapeMachine.nested_start h input
  ⟨nested.code, nested.loops, Memory.size_zeroed _, Nat.zero_lt_succ 999⟩

theorem steps_start (p : Program) (input : Bytes) :
    Steps (initial p.symbols input) (start p input).machine :=
  steps_initial p input

theorem reaches_lefts (n : Nat) (rest : List Symbol) (loops : List (List Symbol)) (pointer : Int)
    (cursor : UInt32) (store : Store) :
    Reaches host (machine ⟨List.replicate n .left ++ rest, loops, pointer, cursor, store⟩)
      (machine ⟨rest, loops, pointer - n, cursor, store⟩) := by
  induction n generalizing pointer with
  | zero => exact (Int.sub_zero pointer).symm ▸ .refl
  | succ n ih =>
    have hleft : Steps
        (machine ⟨.left :: (List.replicate n .left ++ rest), loops, pointer, cursor, store⟩)
        (machine ⟨List.replicate n .left ++ rest, loops, pointer - 1, cursor, store⟩) := by
      unfold machine cell
      rw [codeOf_cons, Layout.cellAddress_pred]
      exact steps_moveBy_sub
    have hrest := ih (pointer - 1)
    rw [Int.sub_sub, Int.add_comm 1] at hrest
    exact hleft.to_reflTransGen.trans hrest

end Point

/-- So many moves to the left that the current cell lies before the start of the memory, and then
the given symbols. -/
def walkOff (bs : Bytes) : Program where
  symbols := List.replicate 257 60 ++ bs

theorem reaches_walkOff (bs input : Bytes) :
    Reaches host (initial (walkOff bs).symbols input)
      (Point.machine ⟨bs.filterMap Symbol.ofByte?, [], -257, 0,
        ⟨Memory.zeroed 196608, input, #[]⟩⟩) := by
  have hsymbols : (walkOff bs).symbols.filterMap Symbol.ofByte? =
      List.replicate 257 .left ++ bs.filterMap Symbol.ofByte? := by
    have hleft : Symbol.ofByte? 60 = some .left := rfl
    rw [walkOff, List.filterMap_append, List.filterMap_replicate_of_some hleft]
  have hstart := (Point.steps_start (walkOff bs) input).to_reflTransGen
  unfold Point.start at hstart
  rw [hsymbols] at hstart
  exact hstart.trans (Point.reaches_lefts 257 _ [] 0 0 _)

/-- A change of the cell there is a trap. -/
theorem trapsWith_walkOff (bs input : Bytes) :
    TrapsWith host .outOfBounds ⟨Memory.zeroed 196608, input, #[]⟩
      (initial (walkOff (43 :: bs)).symbols input) := by
  have hcell : 196608 ≤ (Layout.standard.cellAddress (-257)).toNat := by decide
  have hbeyond : Point.LoadsBeyond ⟨.inc :: bs.filterMap Symbol.ofByte?, [], -257, 0,
      ⟨Memory.zeroed 196608, input, #[]⟩⟩ := ⟨⟨.inc, rfl, rfl⟩, hcell⟩
  exact trapsWith_of_reaches (reaches_walkOff (43 :: bs) input)
    (hbeyond.trapsWith (Memory.size_zeroed _))

/-- The run of a module traps if and only if it comes to a symbol other than `,` that loads a cell
beyond the end of the memory. A read to such a cell only overwrites the descriptor: it takes nothing
from the input, and the run goes on. -/
theorem traps_iff_loadsBeyond (p : Program) {m : Module} (hm : build p .wasi = .ok m)
    (input : Bytes) :
    ∃ calls start, launch? m input = some (calls, start) ∧
      (Traps calls start ↔ ∃ w : Point, Reaches calls start w.machine ∧ w.LoadsBeyond) ∧
      ∀ w : Point, Reaches calls start w.machine → w.symbols.head? = some .input →
        196608 ≤ w.cell.toNat →
        Relation.TransGen (Next calls) w.machine
          (Point.machine ⟨w.symbols.tail, w.loops, w.pointer, w.cursor,
            ⟨(w.store.memory.setWord 1008 w.cell).setWord 1012 1, w.store.input,
              w.store.output⟩⟩) := by
  obtain ⟨⟨-, hcheck⟩, rfl⟩ := (build_eq_ok_iff p m).mp hm
  have hstart := (Point.steps_start p input).to_reflTransGen
  have hsize {w : Point} (hreach : Reaches host (initial p.symbols input) w.machine) :
      w.store.memory.size = 196608 :=
    hreach.memory_size.trans (Memory.size_zeroed _)
  refine ⟨_, _, launch?_moduleOf p.symbols input, ⟨?_, ?_⟩, ?_⟩
  · rintro ⟨n, t, e, hn⟩
    obtain ⟨k, hk⟩ := (Reaches.ends_iff hstart (o := .trapped t e) trivial).mp ⟨n, hn⟩
    obtain ⟨w, hreach, hbeyond⟩ := (Point.live_start hcheck input).exists_loadsBeyond hk
    exact ⟨w, hstart.trans hreach, hbeyond⟩
  · rintro ⟨w, hreach, hbeyond⟩
    exact (trapsWith_of_reaches hreach (hbeyond.trapsWith (hsize hreach))).traps
  · intro w hreach hinput hcell
    have hmemory := hsize hreach
    obtain ⟨symbols, loops, pointer, cursor, ⟨memory, input, output⟩⟩ := w
    obtain ⟨rest, rfl⟩ := List.head?_eq_some_iff.mp hinput
    unfold Point.machine
    rw [codeOf_cons]
    exact (steps_input_beyond (Nat.le_trans (by decide) (Nat.le_of_eq hmemory.symm))
      (Nat.le_trans (Nat.le_of_eq hmemory) hcell)).transGen

/-- An increment 257 cells before the tape traps: its address wraps around to the last word of the
address space. -/
theorem traps_iff_loadsBeyond_lefts :
    ∃ m calls start, build ⟨List.replicate 257 60 ++ [43], []⟩ .wasi = .ok m ∧
      launch? m [] = some (calls, start) ∧ Traps calls start := by
  let p : Program := ⟨List.replicate 257 60 ++ [43], []⟩
  have hfault : faultFrom p.symbols 0 [] = none := by decide +kernel
  have hbuild : build p .wasi = .ok (moduleOf (Instr.encodeAll (program p.symbols))) := by
    rw [build, hfault]
  obtain ⟨calls, start, hlaunch, hiff, -⟩ := traps_iff_loadsBeyond p hbuild []
  refine ⟨_, calls, start, hbuild, hlaunch, hiff.mpr ?_⟩
  rw [launch?_moduleOf] at hlaunch
  obtain ⟨rfl, rfl⟩ := Prod.mk.inj (Option.some.inj hlaunch)
  exact ⟨_, reaches_walkOff [43] [], ⟨.inc, rfl, rfl⟩, by decide⟩

/-- An increment one cell before the tape changes a word behind the descriptor, and the program
finishes. -/
theorem finishes_before_tape :
    ∃ m calls start w r, build ⟨[60, 43], []⟩ .wasi = .ok m ∧
      launch? m [] = some (calls, start) ∧ Reaches calls start (Point.machine w) ∧
      w.symbols.head? = some .inc ∧ w.cell.toNat < 1024 ∧ Finishes calls start r := by
  let p : Program := ⟨[60, 43], []⟩
  have hbuild := (build_eq_ok_iff p _).mpr ⟨⟨List.all_eq_true.mp rfl, rfl⟩, rfl⟩
  have hreach := (Point.steps_start p []).to_reflTransGen.trans
    (Point.reaches_lefts 1 [.inc] [] 0 0 ⟨Memory.zeroed 196608, [], #[]⟩)
  have hcell : Layout.standard.cellAddress (-1) = 1020 := by decide
  have hword : (Memory.zeroed 196608).word? (1020 : UInt32).toNat = some 0 :=
    Memory.word?_zeroed (by decide)
  let memory := (Memory.zeroed 196608).setWord (1020 : UInt32).toNat (0 + 1)
  have hinc : Steps
      (Point.machine ⟨[.inc], [], -1, 0, ⟨Memory.zeroed 196608, [], #[]⟩⟩)
      (Point.machine ⟨[], [], -1, 0, ⟨memory, [], #[]⟩⟩) := by
    unfold Point.machine Point.cell
    rw [codeOf_cons, hcell]
    exact steps_addToCell_add hword
  have hlive : Point.Live ⟨[], [], -1, 0, ⟨memory, [], #[]⟩⟩ :=
    ⟨rfl, trivial, (Memory.size_setWord _ _ _).trans (Memory.size_zeroed _), Nat.zero_lt_succ 999⟩
  obtain ⟨last, r, hsteps, hlast, -⟩ := hlive.finishes rfl
  have hend := (hreach.trans hinc.to_reflTransGen).trans hsteps.to_reflTransGen
  exact ⟨_, _, _, _, r, hbuild, launch?_moduleOf _ [], hreach, rfl, by decide,
    (finishes_iff_of_reaches hend).mpr ⟨1, by rw [run, hlast]⟩⟩

end TapeWasm
