import Mathlib.Logic.Function.Basic
import Mathlib.Logic.Relation
import TapeWasm.Proofs.Source.Brackets
import TapeWasm.Tape.Layout

/-!
The tape machine, which gives programs their meaning. Its tape has a cell for every integer, its
cells are words, and its loops run while the current cell is not zero. A program with matching
brackets runs until no symbols are left.
-/
namespace TapeWasm

/-- The symbols left to run, what follows the `[` of each open loop, innermost first, and the tape
and streams. -/
structure TapeMachine where
  code : List Symbol
  loops : List (List Symbol)
  pointer : Int
  cells : Int → UInt32
  input : Bytes
  output : Bytes

namespace TapeMachine

def start (p : Program) (input : Bytes) : TapeMachine where
  code := p.symbols.filterMap Symbol.ofByte?
  loops := []
  pointer := 0
  cells := fun _ => 0
  input := input
  output := []

def cell (t : TapeMachine) : UInt32 :=
  t.cells t.pointer

def write (t : TapeMachine) (v : UInt32) : TapeMachine :=
  { t with cells := Function.update t.cells t.pointer v }

/-- A word with its lowest byte replaced. -/
def replaceLow (v : UInt32) (b : UInt8) : UInt32 :=
  (v >>> 8) <<< 8 ||| b.toUInt32

/-- The symbols after the `]` that closes the loop `depth` levels out. -/
def afterLoop : Nat → List Symbol → Option (List Symbol)
  | _, [] => none
  | depth, s :: r =>
    match s with
    | .opening => afterLoop (depth + 1) r
    | .closing =>
      match depth with
      | 0 => some r
      | depth + 1 => afterLoop depth r
    | _ => afterLoop depth r

/-- Runs one symbol, `t` having the symbols after it. At the end of the input a read leaves the cell
as it is. -/
def perform (s : Symbol) (t : TapeMachine) : Option TapeMachine :=
  match s with
  | .left => some { t with pointer := t.pointer - 1 }
  | .right => some { t with pointer := t.pointer + 1 }
  | .inc => some (t.write (t.cell + 1))
  | .dec => some (t.write (t.cell - 1))
  | .output => some { t with output := t.output ++ [t.cell.toUInt8] }
  | .input =>
    match t.input with
    | [] => some t
    | b :: input => some { t.write (replaceLow t.cell b) with input }
  | .opening =>
    if t.cell = 0 then (afterLoop 0 t.code).map fun code => { t with code }
    else some { t with loops := t.code :: t.loops }
  | .closing =>
    match t.loops with
    | [] => none
    | body :: outer =>
      if t.cell = 0 then some { t with loops := outer } else some { t with code := body }

def step (t : TapeMachine) : Option TapeMachine :=
  match t.code with
  | [] => none
  | s :: code => perform s { t with code }

/-- Some number of steps, possibly none, leads from one machine to another. -/
abbrev Reaches : TapeMachine → TapeMachine → Prop :=
  Relation.ReflTransGen fun t t' => t.step = some t'

def Finishes (t r : TapeMachine) : Prop :=
  t.Reaches r ∧ r.code = []

/-- Unless the next symbol is a move, the pointer is at one of the cells that programs have. -/
def OnTape (t : TapeMachine) : Prop :=
  ∀ s, t.code.head? = some s → s ≠ .left → s ≠ .right →
    0 ≤ t.pointer ∧ t.pointer < Layout.standard.cells

theorem step_cons {t : TapeMachine} {s : Symbol} {code : List Symbol} (h : t.code = s :: code) :
    t.step = perform s { t with code } := by
  rw [step, h]

/-- What holds of a machine and of all that its next one reaches holds of all that it reaches. -/
theorem forall_reaches_of_step {P : TapeMachine → Prop} {t t' : TapeMachine}
    (hstep : t.step = some t') (ht : P t) (h : ∀ r, t'.Reaches r → P r) :
    ∀ r, t.Reaches r → P r := by
  intro r hr
  obtain rfl | ⟨t'', hstep', hr⟩ := Relation.ReflTransGen.cases_head hr
  · exact ht
  · obtain rfl := Option.some.inj (hstep.symm.trans hstep')
    exact h r hr

theorem forall_reaches_of_end {P : TapeMachine → Prop} {t : TapeMachine} (hstep : t.step = none)
    (ht : P t) : ∀ r, t.Reaches r → P r := by
  intro r hr
  obtain rfl | ⟨t', hstep', -⟩ := Relation.ReflTransGen.cases_head hr
  · exact ht
  · simp [hstep] at hstep'

/-- What follows the `[` of each open loop closes that loop and those around it. -/
def LoopsClose : List (List Symbol) → Prop
  | [] => True
  | body :: outer => Closes (outer.length + 1) body ∧ LoopsClose outer

/-- The symbols left close the open loops. -/
structure Nested (t : TapeMachine) : Prop where
  code : Closes t.loops.length t.code
  loops : LoopsClose t.loops

theorem nested_start {p : Program} (h : p.check = .ok ()) (input : Bytes) :
    Nested (start p input) :=
  ⟨balanced_iff_closes.mp (p.check_eq_ok_iff.mp h), trivial⟩

theorem exists_afterLoop {n d : Nat} {code : List Symbol} (h : Closes (n + d + 1) code) :
    ∃ rest, afterLoop d code = some rest ∧ Closes n rest := by
  induction code generalizing d with
  | nil => exact absurd h (Nat.succ_ne_zero (n + d))
  | cons s r ih =>
    cases s with
    | opening => exact ih (d := d + 1) h
    | closing =>
      cases d with
      | zero => exact ⟨r, rfl, h⟩
      | succ d => exact ih h
    | _ => exact ih h

theorem Nested.perform {s : Symbol} {t : TapeMachine} {code : List Symbol}
    (hcode : Closes t.loops.length (s :: code)) (hloops : LoopsClose t.loops) :
    ∃ t', TapeMachine.perform s { t with code } = some t' ∧ Nested t' := by
  cases s with
  | opening =>
    by_cases hz : t.cell = 0
    · obtain ⟨rest, hrest, hclose⟩ := exists_afterLoop (d := 0) hcode
      refine ⟨{ t with code := rest }, ?_, hclose, hloops⟩
      have hz : { t with code }.cell = 0 := hz
      simp [TapeMachine.perform, hz, hrest]
    · have hz : { t with code }.cell ≠ 0 := hz
      exact ⟨_, if_neg hz, hcode, hcode, hloops⟩
  | closing =>
    obtain ⟨_, loops, _, _, _, _⟩ := t
    cases loops with
    | nil => exact absurd hcode not_false
    | cons body outer =>
      simp only [TapeMachine.perform]
      split
      · exact ⟨_, rfl, hcode, hloops.2⟩
      · exact ⟨_, rfl, hloops.1, hloops⟩
  | input =>
    obtain ⟨_, _, _, _, input, _⟩ := t
    cases input with
    | nil => exact ⟨_, rfl, hcode, hloops⟩
    | cons b r => exact ⟨_, rfl, hcode, hloops⟩
  | _ => exact ⟨_, rfl, hcode, hloops⟩

/-- While symbols are left, a nested machine has a next step, and it stays nested. -/
theorem Nested.step {t : TapeMachine} (h : Nested t) (hcode : t.code ≠ []) :
    ∃ t', t.step = some t' ∧ Nested t' := by
  obtain ⟨s, code, hs⟩ := List.exists_cons_of_ne_nil hcode
  rw [step_cons hs]
  exact Nested.perform (hs ▸ h.code) h.loops

theorem Nested.reaches {t t' : TapeMachine} (h : Nested t) (ht : t.Reaches t') : Nested t' := by
  induction ht with
  | refl => exact h
  | @tail r r' _ hstep ih =>
    have hcode : r.code ≠ [] := by
      intro hcode
      simp [TapeMachine.step, hcode] at hstep
    obtain ⟨r'', hstep', hnested⟩ := ih.step hcode
    obtain rfl := Option.some.inj (hstep.symm.trans hstep')
    exact hnested

/-- No loops are open where no symbols are left. -/
theorem Nested.loops_eq_nil {t : TapeMachine} (h : Nested t) (hcode : t.code = []) :
    t.loops = [] := by
  have hclose := h.code
  rw [hcode] at hclose
  exact List.eq_nil_of_length_eq_zero hclose

end TapeMachine
end TapeWasm
