import TapeWasm.Proofs.Typing.Checks
import TapeWasm.Wasm.Machine

/-!
Blocks and what closes them. Of the checker's stacks an instruction changes only the part of the
innermost block, or it opens or closes a block. So accepted code has an `end` for every open block,
and the code after it is accepted with the block's results on the operands around it.
-/
namespace TapeWasm.Wasm

def Instr.Opens (i : Instr) : Prop :=
  i.op = Op.block ∨ i.op = Op.loop ∨ i.op = Op.ifThen

theorem Instr.Opens.imm {i : Instr} (h : i.Opens) (hi : i.WellShaped) : ∃ t, i.imm = .block t := by
  obtain ⟨op, imm⟩ := i
  have hshape : imm.shape = .block := by
    have hi : shape? op = some imm.shape := hi
    rcases h with rfl | rfl | rfl <;> exact (Option.some.inj hi).symm
  cases imm <;> first | exact ⟨_, rfl⟩ | cases hshape

/-- What one instruction leaves of a block `g` with the operands `base` under it. -/
inductive Scope.Shape (i : Instr) (base : List ValueType) (g : Frame) (fs : List Frame) :
    Checker → Prop
  | opens (hop : i.Opens) (own top : List ValueType) {g' : Frame}
      (hg' : g'.height = (top ++ base).length) :
      Shape i base g fs ⟨own ++ (top ++ base), g' :: g :: fs⟩
  | closes (hop : i.op = Op.stop) :
      Shape i base g fs ⟨g.type.results.reverse ++ base, fs⟩
  | stays (hop : ¬ i.Opens) (hstop : i.op ≠ Op.stop) (top : List ValueType) {g' : Frame}
      (htype : g'.type = g.type) (hheight : g'.height = g.height) :
      Shape i base g fs ⟨top ++ base, g' :: fs⟩

namespace Scope

variable {i : Instr} {base : List ValueType} {g : Frame} {fs : List Frame} {c c' : Checker}

theorem Shape.of_on (hop : ¬ i.Opens) (hstop : i.op ≠ Op.stop) (h : Checker.On base g fs c) :
    Shape i base g fs c := by
  obtain ⟨top, rfl⟩ := h
  exact .stays hop hstop top rfl rfl

theorem Shape.of_abandon (hop : ¬ i.Opens) (hstop : i.op ≠ Op.stop)
    (hg : g.height = base.length) (h : Checker.On base g fs c) :
    Shape i base g fs c.abandon := by
  rw [h.abandon hg]
  exact .stays hop hstop [] rfl rfl

theorem blockStart_shape {s : Scope} {kind : FrameKind} {t : Int32} (hop : i.Opens)
    (hg : g.height = base.length) (hc : Checker.On base g fs c)
    (h : s.blockStart kind t c = .ok c') : Shape i base g fs c' := by
  obtain ⟨type, -, h⟩ := except_bind_ok_iff.mp h
  simp only at h
  split at h
  all_goals
    obtain ⟨c₁, hc₁, h⟩ := except_bind_ok_iff.mp h
    obtain ⟨c₂, hall, h⟩ := except_bind_ok_iff.mp h
    obtain rfl := except_pure_ok_iff.mp h
  · obtain ⟨top, rfl⟩ := (hc.expect hg hc₁).expectAll hg hall
    exact .opens hop _ top rfl
  · cases hc₁
    obtain ⟨top, rfl⟩ := hc.expectAll hg hall
    exact .opens hop _ top rfl

/-- A block that takes and leaves nothing starts on the operands that are there. -/
theorem blockStart_empty {s : Scope} {kind : FrameKind} (hk : kind ≠ .ifThen)
    (h : s.blockStart kind emptyType c = .ok c') :
    c' = ⟨c.operands, ⟨kind, {}, c.operands.length, false⟩ :: c.frames⟩ := by
  obtain ⟨type, htype, h⟩ := except_bind_ok_iff.mp h
  cases htype
  simp only [if_neg hk] at h
  obtain ⟨c₁, hc₁, h⟩ := except_bind_ok_iff.mp h
  cases hc₁
  exact (Except.ok.inj h).symm

theorem localStep_on {s : Scope} {op : UInt8} {n : UInt32} (hg : g.height = base.length)
    (hc : Checker.On base g fs c) (h : s.localStep op n c = .ok c') :
    Checker.On base g fs c' := by
  unfold localStep at h
  split at h
  · cases h
  · split at h
    · cases h
      exact hc.push _
    · exact hc.expect hg h
    · obtain ⟨c₁, he, h⟩ := except_bind_ok_iff.mp h
      obtain rfl := except_pure_ok_iff.mp h
      exact (hc.expect hg he).push _

theorem globalStep_on {s : Scope} {op : UInt8} {n : UInt32} (hg : g.height = base.length)
    (hc : Checker.On base g fs c) (h : s.globalStep op n c = .ok c') :
    Checker.On base g fs c' := by
  unfold globalStep at h
  split at h
  · cases h
  · split at h
    · cases h
      exact hc.push _
    · split at h
      · exact hc.expect hg h
      · cases h

theorem memoryStep_on {s : Scope} {arg : MemArg} {acc : Access} (hg : g.height = base.length)
    (hc : Checker.On base g fs c) (h : s.memoryStep arg acc c = .ok c') :
    Checker.On base g fs c' := by
  obtain ⟨-, -, h⟩ := except_bind_ok_iff.mp h
  split at h
  · cases h
  · split at h
    · obtain ⟨c₁, he, h⟩ := except_bind_ok_iff.mp h
      exact (hc.expect hg he).expect hg h
    · obtain ⟨c₁, he, h⟩ := except_bind_ok_iff.mp h
      obtain rfl := except_pure_ok_iff.mp h
      exact (hc.expect hg he).push _

theorem apply_on {params results : List ValueType} (hg : g.height = base.length)
    (hc : Checker.On base g fs c)
    (h : (do let c ← c.expectAll params; return c.pushAll results) = Except.ok c') :
    Checker.On base g fs c' := by
  obtain ⟨c₁, hall, h⟩ := except_bind_ok_iff.mp h
  obtain rfl := except_pure_ok_iff.mp h
  exact (hc.expectAll hg hall).pushAll _

theorem step_opens {s : Scope} (hi : i.WellShaped) (hop : i.Opens) (hg : g.height = base.length)
    (hc : Checker.On base g fs c) (h : s.step i c = .ok c') : Shape i base g fs c' := by
  obtain ⟨t, ht⟩ := hop.imm hi
  have hstart : ∃ kind, s.step i c = s.blockStart kind t c := by
    obtain ⟨op, imm⟩ := i
    cases ht
    rcases hop with rfl | rfl | rfl <;> exact ⟨_, rfl⟩
  obtain ⟨kind, hkind⟩ := hstart
  exact blockStart_shape hop hg hc (hkind ▸ h)

theorem step_closes {s : Scope} (hstop : i.op = Op.stop) (hg : g.height = base.length)
    (hc : Checker.On base g fs c) (h : s.step i c = .ok c') :
    c' = ⟨g.type.results.reverse ++ base, fs⟩ := by
  obtain ⟨op, imm⟩ := i
  cases hstop
  obtain ⟨⟨f, c₁⟩, hleave, h⟩ := except_bind_ok_iff.mp h
  obtain ⟨rfl, rfl⟩ := hc.leave hg hleave
  simp only at h
  split at h
  · cases h
  · exact (except_pure_ok_iff.mp h).symm

/-- Every instruction opens a block, closes one, or stays in the innermost one. -/
theorem step_shape {s : Scope} (hi : i.WellShaped) (hg : g.height = base.length)
    (hc : Checker.On base g fs c) (h : s.step i c = .ok c') : Shape i base g fs c' := by
  by_cases hop : i.Opens
  · exact step_opens hi hop hg hc h
  by_cases hstop : i.op = Op.stop
  · rw [step_closes hstop hg hc h]
    exact .closes hstop
  unfold step at h
  split at h
  case h_1 =>
    cases h
    exact .of_abandon hop hstop hg hc
  case h_2 =>
    cases h
    exact .of_on hop hstop hc
  case h_3 hop' _ => exact absurd (.inl hop') hop
  case h_4 hop' _ => exact absurd (.inr (.inl hop')) hop
  case h_5 hop' _ => exact absurd (.inr (.inr hop')) hop
  case h_6 =>
    obtain ⟨⟨f, c₁⟩, hleave, h⟩ := except_bind_ok_iff.mp h
    obtain ⟨rfl, rfl⟩ := hc.leave hg hleave
    simp only at h
    split at h
    · obtain rfl := except_pure_ok_iff.mp h
      exact .stays hop hstop _ rfl hg.symm
    · cases h
  case h_7 hstop' => exact absurd hstop' hstop
  case h_8 =>
    obtain ⟨types, -, h⟩ := except_bind_ok_iff.mp h
    obtain ⟨c₁, hall, h⟩ := except_bind_ok_iff.mp h
    obtain rfl := except_pure_ok_iff.mp h
    exact .of_abandon hop hstop hg (hc.expectAll hg hall)
  case h_9 =>
    obtain ⟨c₁, he, h⟩ := except_bind_ok_iff.mp h
    obtain ⟨types, -, h⟩ := except_bind_ok_iff.mp h
    exact .of_on hop hstop (apply_on hg (hc.expect hg he) h)
  case h_10 =>
    obtain ⟨c₁, he, h⟩ := except_bind_ok_iff.mp h
    obtain ⟨types, -, h⟩ := except_bind_ok_iff.mp h
    obtain ⟨-, -, h⟩ := except_bind_ok_iff.mp h
    obtain ⟨c₂, hall, h⟩ := except_bind_ok_iff.mp h
    obtain rfl := except_pure_ok_iff.mp h
    exact .of_abandon hop hstop hg ((hc.expect hg he).expectAll hg hall)
  case h_11 =>
    obtain ⟨c₁, hall, h⟩ := except_bind_ok_iff.mp h
    obtain rfl := except_pure_ok_iff.mp h
    exact .of_abandon hop hstop hg (hc.expectAll hg hall)
  case h_12 =>
    split at h
    · cases h
    · exact .of_on hop hstop (apply_on hg hc h)
  case h_13 =>
    obtain ⟨⟨t, c₁⟩, hpop, h⟩ := except_bind_ok_iff.mp h
    obtain rfl := except_pure_ok_iff.mp h
    exact .of_on hop hstop (hc.pop hg hpop)
  case h_14 =>
    obtain ⟨c₁, he, h⟩ := except_bind_ok_iff.mp h
    obtain ⟨⟨t, c₂⟩, hpop, h⟩ := except_bind_ok_iff.mp h
    obtain ⟨⟨t', c₃⟩, hpop', h⟩ := except_bind_ok_iff.mp h
    obtain rfl := except_pure_ok_iff.mp h
    exact .of_on hop hstop ((((hc.expect hg he).pop hg hpop).popType hg hpop').push _)
  case h_15 => exact .of_on hop hstop (localStep_on hg hc h)
  case h_16 => exact .of_on hop hstop (globalStep_on hg hc h)
  case h_17 =>
    obtain ⟨-, -, h⟩ := except_bind_ok_iff.mp h
    simp only at h
    split at h
    · obtain ⟨c₁, he, h⟩ := except_bind_ok_iff.mp h
      obtain rfl := except_pure_ok_iff.mp h
      exact .of_on hop hstop ((hc.expect hg he).push _)
    · obtain rfl := except_pure_ok_iff.mp h
      exact .of_on hop hstop (hc.push _)
  case h_18 | h_19 =>
    cases h
    exact .of_on hop hstop (hc.push _)
  case h_20 =>
    split at h
    · exact .of_on hop hstop (memoryStep_on hg hc h)
    · split at h
      · exact .of_on hop hstop (apply_on hg hc h)
      · cases h

end Scope

/-- Each block's operands lie on those of the block around it. -/
inductive Checker.Stacked : Checker → Prop
  | nil (operands : List ValueType) : Stacked ⟨operands, []⟩
  | cons (top : List ValueType) {base : List ValueType} {g : Frame} {fs : List Frame}
      (h : Stacked ⟨base, fs⟩) (hg : g.height = base.length) : Stacked ⟨top ++ base, g :: fs⟩

theorem Checker.Stacked.enter (results : List ValueType) :
    (Checker.enter {} .block { results }).Stacked :=
  .cons [] (.nil []) rfl

/-- The checker is `depth` blocks inside a block with the given results, which lies on the operands
`base` and the blocks `fs`. -/
inductive Checker.Inside (results base : List ValueType) (fs : List Frame) : Nat → Checker → Prop
  | here (top : List ValueType) {g : Frame} (hr : g.type.results = results)
      (hg : g.height = base.length) : Inside results base fs 0 ⟨top ++ base, g :: fs⟩
  | inner (top : List ValueType) {depth : Nat} {operands : List ValueType} {g : Frame}
      {frames : List Frame} (h : Inside results base fs depth ⟨operands, frames⟩)
      (hg : g.height = operands.length) :
      Inside results base fs (depth + 1) ⟨top ++ operands, g :: frames⟩

namespace Scope

open Checker

theorem step_stacked {s : Scope} {i : Instr} {c d : Checker} (hi : i.WellShaped)
    (hne : c.frames ≠ []) (hc : Stacked c) (h : s.step i c = .ok d) : Stacked d := by
  cases hc with
  | nil operands => exact absurd rfl hne
  | cons top hbase hg =>
    cases step_shape hi hg ⟨top, rfl⟩ h with
    | opens _ own top hg' => exact .cons own (.cons top hbase hg) hg'
    | closes => cases hbase with
      | nil operands => exact .nil _
      | cons top' hbase' hg' =>
        rw [← List.append_assoc]
        exact .cons _ hbase' hg'
    | stays _ _ top _ hheight => exact .cons top hbase (hheight.trans hg)

theorem Checks.stacked {s : Scope} {code : List Instr} {c e : Checker} (h : s.Checks code c e)
    (hw : ∀ i ∈ code, i.WellShaped) (hc : Stacked c) : Stacked e := by
  induction code generalizing c with
  | nil =>
    obtain rfl : c = e := h
    exact hc
  | cons i is ih =>
    obtain ⟨hne, d, hi, h⟩ := h
    rw [List.forall_mem_cons] at hw
    exact ih h hw.2 (step_stacked hw.1 hne hc hi)

end Scope

namespace Machine

variable {i : Instr} {is : List Instr} {depth : Nat}

theorem afterEnd_cons_of_opens (h : i.Opens) :
    afterEnd depth (i :: is) = afterEnd (depth + 1) is := by
  obtain ⟨op, imm⟩ := i
  rcases h with rfl | rfl | rfl <;> rfl

theorem afterEnd_zero_cons_of_stop (h : i.op = Op.stop) : afterEnd 0 (i :: is) = some is := by
  obtain ⟨op, imm⟩ := i
  cases h
  rfl

theorem afterEnd_succ_cons_of_stop (h : i.op = Op.stop) :
    afterEnd (depth + 1) (i :: is) = afterEnd depth is := by
  obtain ⟨op, imm⟩ := i
  cases h
  rfl

theorem afterEnd_cons_of_stays (h : ¬ i.Opens) (hstop : i.op ≠ Op.stop) :
    afterEnd depth (i :: is) = afterEnd depth is := by
  rw [afterEnd.eq_def]
  simp only
  split
  case h_1 hop => exact absurd (.inl hop) h
  case h_2 hop => exact absurd (.inr (.inl hop)) h
  case h_3 hop => exact absurd (.inr (.inr hop)) h
  case h_4 hop => exact absurd hop hstop
  case h_5 => rfl

/-- A piece of code that branches pass over as if it were not there. -/
def Level (a : List Instr) : Prop :=
  ∀ depth after, afterEnd depth (a ++ after) = afterEnd depth after

theorem Level.append {a b : List Instr} (ha : Level a) (hb : Level b) : Level (a ++ b) := by
  intro depth after
  rw [List.append_assoc, ha, hb]

end Machine

namespace Checker.Inside

variable {s : Scope} {i : Instr} {results base : List ValueType} {fs : List Frame} {depth : Nat}
  {c c' : Checker}

theorem append {operands : List ValueType} {frames : List Frame}
    (h : Inside results base fs depth ⟨operands, frames⟩) (own : List ValueType) :
    Inside results base fs depth ⟨own ++ operands, frames⟩ := by
  cases h with
  | here top hr hg =>
    rw [← List.append_assoc]
    exact .here _ hr hg
  | inner top h hg =>
    rw [← List.append_assoc]
    exact .inner _ h hg

theorem step_opens (hi : i.WellShaped) (hop : i.Opens) (h : Inside results base fs depth c)
    (hstep : s.step i c = .ok c') : Inside results base fs (depth + 1) c' := by
  have hne : i.op ≠ Op.stop := by rcases hop with h | h | h <;> rw [h] <;> decide
  cases h with
  | here top hr hg =>
    cases Scope.step_shape hi hg ⟨top, rfl⟩ hstep with
    | opens _ own top' hg' => exact .inner own (.here top' hr hg) hg'
    | closes hstop => exact absurd hstop hne
    | stays hstays => exact absurd hop hstays
  | inner top h hg =>
    cases Scope.step_shape hi hg ⟨top, rfl⟩ hstep with
    | opens _ own top' hg' => exact .inner own (.inner top' h hg) hg'
    | closes hstop => exact absurd hstop hne
    | stays hstays => exact absurd hop hstays

theorem step_closes_here (hstop : i.op = Op.stop) (h : Inside results base fs 0 c)
    (hstep : s.step i c = .ok c') : c' = ⟨results.reverse ++ base, fs⟩ := by
  cases h with
  | here top hr hg =>
    rw [← hr]
    exact Scope.step_closes hstop hg ⟨top, rfl⟩ hstep

theorem step_closes_inner (hstop : i.op = Op.stop) (h : Inside results base fs (depth + 1) c)
    (hstep : s.step i c = .ok c') : Inside results base fs depth c' := by
  cases h with
  | inner top h hg =>
    rw [Scope.step_closes hstop hg ⟨top, rfl⟩ hstep]
    exact h.append _

theorem step_stays (hi : i.WellShaped) (hop : ¬ i.Opens) (hstop : i.op ≠ Op.stop)
    (h : Inside results base fs depth c) (hstep : s.step i c = .ok c') :
    Inside results base fs depth c' := by
  cases h with
  | here top hr hg =>
    cases Scope.step_shape hi hg ⟨top, rfl⟩ hstep with
    | opens hop' => exact absurd hop' hop
    | closes hstop' => exact absurd hstop' hstop
    | stays _ _ top' htype hheight => exact .here top' (htype ▸ hr) (hheight.trans hg)
  | inner top h hg =>
    cases Scope.step_shape hi hg ⟨top, rfl⟩ hstep with
    | opens hop' => exact absurd hop' hop
    | closes hstop' => exact absurd hstop' hstop
    | stays _ _ top' _ hheight => exact .inner top' h (hheight.trans hg)

/-- Accepted code has an `end` for every open block. The code after it is accepted, with the block's
results on the operands around it. -/
theorem afterEnd {code : List Instr} {operands : List ValueType}
    (h : Inside results base fs depth c) (hcode : s.Checks code c ⟨operands, []⟩)
    (hw : ∀ i ∈ code, i.WellShaped) :
    ∃ rest, Machine.afterEnd depth code = some rest ∧ rest <:+ code ∧
      s.Checks rest ⟨results.reverse ++ base, fs⟩ ⟨operands, []⟩ := by
  induction code generalizing depth c with
  | nil =>
    obtain rfl : c = ⟨operands, []⟩ := hcode
    cases h
  | cons i is ih =>
    obtain ⟨-, d, hi, hcode⟩ := hcode
    have hwi := hw i (by simp)
    have hwis : ∀ j ∈ is, j.WellShaped := fun j hj => hw j (by simp [hj])
    have hsuffix {rest : List Instr} (hr : rest <:+ is) : rest <:+ i :: is :=
      hr.trans (List.suffix_cons i is)
    by_cases hop : i.Opens
    · obtain ⟨rest, hrest, hr, hcheck⟩ := ih (h.step_opens hwi hop hi) hcode hwis
      exact ⟨rest, by rw [Machine.afterEnd_cons_of_opens hop, hrest], hsuffix hr, hcheck⟩
    by_cases hstop : i.op = Op.stop
    · cases depth with
      | zero =>
        obtain rfl := h.step_closes_here hstop hi
        exact ⟨is, Machine.afterEnd_zero_cons_of_stop hstop, List.suffix_cons i is, hcode⟩
      | succ depth =>
        obtain ⟨rest, hrest, hr, hcheck⟩ := ih (h.step_closes_inner hstop hi) hcode hwis
        exact ⟨rest, by rw [Machine.afterEnd_succ_cons_of_stop hstop, hrest], hsuffix hr, hcheck⟩
    · obtain ⟨rest, hrest, hr, hcheck⟩ := ih (h.step_stays hwi hop hstop hi) hcode hwis
      exact ⟨rest, by rw [Machine.afterEnd_cons_of_stays hop hstop, hrest], hsuffix hr, hcheck⟩

end Checker.Inside
end TapeWasm.Wasm
