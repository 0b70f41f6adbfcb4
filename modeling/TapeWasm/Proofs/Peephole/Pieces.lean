import TapeWasm.Emit.Code
import TapeWasm.Proofs.Peephole.Length

/-!
Condensing the code of a tape program. Between prologue and epilogue the stack of groups is always a
list of pieces, one for each symbol or sum of symbols, and putting the code of a symbol on it is
placing a piece on that list. A piece that was placed stays when the condensed code is read again.
-/
namespace TapeWasm.Peephole

open Wasm

/-- What the code of a tape program is made of. A cleared cell is one group when it has just been
condensed, and three instructions when it is read again. -/
inductive Piece where
  | move (delta : Int32)
  | change (delta : Int32)
  | clear
  | cleared
  | output
  | input
  | opening
  | closing

namespace Piece

def groups : Piece → List Group
  | move d => [.move Emit.Var.cell d]
  | change d => [.change Emit.Var.cell (Emit.wordAccess 0) d]
  | clear => [.clear Emit.Var.cell (Emit.wordAccess 0)]
  | cleared => (Group.clear Emit.Var.cell (Emit.wordAccess 0)).code.map .raw
  | output =>
    (Emit.output.take 4).map .raw ++ [.move Emit.Var.cursor 1] ++ (Emit.output.drop 8).map .raw
  | input => Emit.input.map .raw
  | opening => Emit.openLoop.map .raw
  | closing => Emit.closeLoop.map .raw

def code (p : Piece) : List Instr :=
  p.groups.flatMap Group.code

def ofSymbol : Symbol → Piece
  | .left => move (-4)
  | .right => move 4
  | .inc => change 1
  | .dec => change (-1)
  | .output => output
  | .input => input
  | .opening => opening
  | .closing => closing

theorem code_ofSymbol (s : Symbol) : (ofSymbol s).code = Emit.symbol s := by
  cases s <;> rfl

theorem splits_code {p : Piece} (h : p ≠ clear) : Splits p.code p.groups := by
  cases p with
  | move d => exact splits_code_move _ d
  | change d => exact splits_code_change _ _ d
  | clear => exact absurd rfl h
  | output =>
    have hput : allStandAlone (Emit.output.take 4) = true := rfl
    have hspill : allStandAlone (Emit.output.drop 8) = true := rfl
    exact ((splits_raw hput).append (splits_code_move _ 1)).append (splits_raw hspill)
  | cleared | input | opening | closing => exact splits_raw rfl

def sum? : Piece → Piece → Option Piece
  | move d, move e => some (move (d + e))
  | change d, change e => some (change (d + e))
  | _, _ => none

def isIdle : Piece → Bool
  | move d => d == 0
  | change d => d == 0
  | _ => false

/-- A piece on top of others that it is not added to. -/
def lay : Piece → List Piece → List Piece
  | closing, change d :: opening :: below =>
    if d % 2 ≠ 0 then clear :: below else closing :: change d :: opening :: below
  | p, ps => if p.isIdle then ps else p :: ps

def place : List Piece → Piece → List Piece
  | [], p => p.lay []
  | top :: below, p =>
    match p.sum? top with
    | none => p.lay (top :: below)
    | some sum => if sum.isIdle then below else sum :: below

/-- Pieces each of which stays as it is when it is placed on those below. -/
inductive Tidy : List Piece → Prop
  | nil : Tidy []
  | cons {p : Piece} {ps : List Piece} (h : Tidy ps) (hp : place ps p = p :: ps) : Tidy (p :: ps)

/-! Placing keeps pieces tidy. -/

theorem sum?_sum_eq_none_iff {p top sum : Piece} (h : p.sum? top = some sum) (next : Piece) :
    sum.sum? next = none ↔ top.sum? next = none := by
  cases p <;> cases top <;> cases h <;> cases next <;> simp [sum?]

theorem lay_cases (p : Piece) (ps : List Piece) :
    (p.lay ps = ps ∧ p.isIdle = true) ∨ (p.lay ps = p :: ps ∧ p.isIdle = false) ∨
      ∃ d below, p = closing ∧ ps = change d :: opening :: below ∧ d % 2 ≠ 0 ∧
        p.lay ps = clear :: below := by
  unfold lay
  split
  · rename_i d below
    split
    · rename_i hd
      exact .inr (.inr ⟨d, below, rfl, rfl, hd, rfl⟩)
    · exact .inr (.inl ⟨rfl, rfl⟩)
  · split
    · rename_i hidle
      exact .inl ⟨rfl, hidle⟩
    · rename_i hidle
      exact .inr (.inl ⟨rfl, by simpa using hidle⟩)

theorem isIdle_of_lay {p : Piece} {ps : List Piece} (h : p.lay ps = p :: ps) :
    p.isIdle = false := by
  obtain ⟨hsame, -⟩ | ⟨-, hidle⟩ | ⟨d, below, -, rfl, -, hclear⟩ := lay_cases p ps
  · simp [hsame] at h
  · exact hidle
  · have hlength := congrArg List.length (hclear.symm.trans h)
    simp at hlength

theorem place_eq_cons_iff {p : Piece} {ps : List Piece} :
    place ps p = p :: ps ↔ (∀ top ∈ ps.head?, p.sum? top = none) ∧ p.lay ps = p :: ps := by
  cases ps with
  | nil => simp [place]
  | cons top below =>
    cases hsum : p.sum? top with
    | none => simp [place, hsum]
    | some sum =>
      have hlength : place (top :: below) p ≠ p :: top :: below := by
        intro h
        have := congrArg List.length h
        simp only [place, hsum] at this
        split at this
        · simp at this
          omega
        · simp at this
      simp [hlength, hsum]

theorem lay_sum {p top sum : Piece} (h : p.sum? top = some sum) (hidle : sum.isIdle = false)
    (ps : List Piece) : sum.lay ps = sum :: ps := by
  obtain ⟨-, hidle'⟩ | ⟨hlaid, -⟩ | ⟨d, below, rfl, -⟩ := lay_cases sum ps
  · rw [hidle] at hidle'
    cases hidle'
  · exact hlaid
  · cases p <;> cases top <;> cases h

theorem place_clear (ps : List Piece) : place ps clear = clear :: ps := by
  refine place_eq_cons_iff.mpr ⟨fun top _ => ?_, rfl⟩
  cases top <;> rfl

theorem Tidy.tail {p : Piece} {ps : List Piece} (h : Tidy (p :: ps)) : Tidy ps := by
  cases h with
  | cons h _ => exact h

theorem Tidy.lay {p : Piece} {ps : List Piece} (h : Tidy ps)
    (hp : ∀ top ∈ ps.head?, p.sum? top = none) : Tidy (p.lay ps) := by
  obtain ⟨hsame, -⟩ | ⟨hlaid, -⟩ | ⟨d, below, rfl, rfl, -, hclear⟩ := lay_cases p ps
  · rwa [hsame]
  · rw [hlaid]
    exact h.cons (place_eq_cons_iff.mpr ⟨hp, hlaid⟩)
  · rw [hclear]
    exact h.tail.tail.cons (place_clear below)

theorem Tidy.place {ps : List Piece} (h : Tidy ps) (p : Piece) : Tidy (place ps p) := by
  cases h with
  | nil => exact Tidy.nil.lay (by simp)
  | @cons top below h htop =>
    cases hsum : p.sum? top with
    | none =>
      simp only [Piece.place, hsum]
      exact (h.cons htop).lay (by simpa using hsum)
    | some sum =>
      simp only [Piece.place, hsum]
      split
      · exact h
      · rename_i hidle
        have hnext := (place_eq_cons_iff.mp htop).1
        refine h.cons (place_eq_cons_iff.mpr ⟨fun next hmem => ?_, ?_⟩)
        · exact (sum?_sum_eq_none_iff hsum next).mpr (hnext next hmem)
        · exact lay_sum hsum (by simpa using hidle) below

theorem tidy_foldl (ts ps : List Piece) (h : Tidy ps) : Tidy (ts.foldl Piece.place ps) := by
  induction ts generalizing ps with
  | nil => exact h
  | cons t ts ih => exact ih _ (h.place t)

/-! Reading the code of pieces again. -/

/-- What a piece is when its code is read again. -/
def reread : Piece → Piece
  | clear => cleared
  | p => p

theorem code_reread (p : Piece) : p.reread.code = p.code := by
  cases p <;> rfl

theorem reread_ne_clear (p : Piece) : p.reread ≠ clear := by
  cases p <;> nofun

theorem isIdle_reread (p : Piece) : p.reread.isIdle = p.isIdle := by
  cases p <;> rfl

theorem sum?_reread {p q : Piece} (h : p.sum? q = none) : p.reread.sum? q.reread = none := by
  cases p <;> cases q <;> first | rfl | cases h

theorem lay_reread {p : Piece} {ps : List Piece} (h : p.lay ps = p :: ps) :
    p.reread.lay (ps.map reread) = p.reread :: ps.map reread := by
  have hidle := isIdle_of_lay h
  obtain ⟨-, hidle'⟩ | ⟨hlaid, -⟩ | ⟨d, below, hp, hps, hd, -⟩ :=
    lay_cases p.reread (ps.map reread)
  · rw [isIdle_reread, hidle] at hidle'
    cases hidle'
  · exact hlaid
  · -- An odd loop would have been cleared the first time.
    obtain rfl : p = closing := by cases p <;> first | rfl | cases hp
    obtain ⟨top, rest, rfl, htop, hrest⟩ := List.map_eq_cons_iff.mp hps
    obtain ⟨next, rest, rfl, hnext, -⟩ := List.map_eq_cons_iff.mp hrest
    obtain rfl : top = change d := by cases top <;> first | exact htop | cases htop
    obtain rfl : next = opening := by cases next <;> first | rfl | cases hnext
    have hlength := congrArg List.length h
    simp [lay, hd] at hlength

theorem foldl_place_reread {ps : List Piece} (h : Tidy ps) :
    (ps.reverse.map reread).foldl place [] = ps.map reread := by
  induction h with
  | nil => rfl
  | @cons p ps h hp ih =>
    obtain ⟨hsum, hlay⟩ := place_eq_cons_iff.mp hp
    rw [List.reverse_cons, List.map_append, List.foldl_append, ih]
    refine place_eq_cons_iff.mpr ⟨fun top htop => ?_, lay_reread hlay⟩
    obtain ⟨q, hq, rfl⟩ : ∃ q, ps.head? = some q ∧ q.reread = top := by
      simpa [List.head?_map] using htop
    exact sum?_reread (hsum q hq)

/-! The stack of groups is a list of pieces. -/

def stack (ps : List Piece) : List Group :=
  ps.flatMap (fun p => p.groups.reverse) ++ (Emit.prologue.map Group.raw).reverse

theorem stack_cons (p : Piece) (ps : List Piece) :
    stack (p :: ps) = p.groups.reverse ++ stack ps := by
  simp [stack]

theorem stackCode_stack (ps : List Piece) :
    stackCode (stack ps) = Emit.prologue ++ ps.reverse.flatMap code := by
  induction ps with
  | nil => rfl
  | cons p ps ih =>
    have h : stackCode (stack (p :: ps)) = stackCode (stack ps) ++ p.code := by
      simp [stackCode, stack_cons, code]
    simp [h, ih]

/-- The group of a piece that is added to others of its kind. -/
def sumGroup? : Piece → Option Group
  | move d => some (.move Emit.Var.cell d)
  | change d => some (.change Emit.Var.cell (Emit.wordAccess 0) d)
  | _ => none

section Sums

variable {p top sum : Piece} {g : Group}

theorem groups_of_sumGroup? (h : p.sumGroup? = some g) : p.groups = [g] := by
  cases p <;> cases h <;> rfl

theorem isIdle_of_sumGroup? (h : p.sumGroup? = some g) : Peephole.isIdle g = p.isIdle := by
  cases p <;> cases h <;> rfl

theorem isRaw_of_sumGroup? (h : p.sumGroup? = some g) (op : UInt8) : isRaw op g = none := by
  cases p <;> cases h <;> rfl

theorem lay_of_sumGroup? (h : p.sumGroup? = some g) (ps : List Piece) :
    p.lay ps = if p.isIdle then ps else p :: ps := by
  cases p <;> cases h <;> rfl

theorem exists_sumGroup? (h : p.sum? top = some sum) : ∃ g g' gs, p.sumGroup? = some g ∧
    top.sumGroup? = some g' ∧ sum.sumGroup? = some gs ∧ merged? g g' = some gs := by
  cases p <;> cases top <;> cases h <;> exact ⟨_, _, _, rfl, rfl, rfl, rfl⟩

theorem settle_stack (hg : p.sumGroup? = some g) {ps : List Piece}
    (h : ∀ top ∈ ps.head?, p.sum? top = none) : settle g (stack ps) = (some g, stack ps) := by
  cases ps with
  | nil => cases p <;> cases hg <;> rfl
  | cons top below =>
    have htop := h top rfl
    cases p <;> cases hg <;> cases top <;>
      first | exact settle_of_not_merged rfl _ | cases htop

theorem push_stack (hg : p.sumGroup? = some g) {ps : List Piece} (h : Tidy ps) :
    push (stack ps) g = stack (place ps p) := by
  have hlay (hp : ∀ top ∈ ps.head?, p.sum? top = none) : push (stack ps) g = stack (p.lay ps) := by
    have hs := settle_stack hg hp
    rw [lay_of_sumGroup? hg]
    split
    · rename_i hidle
      exact push_of_idle hs ((isIdle_of_sumGroup? hg).trans hidle)
    · rename_i hidle
      rw [stack_cons, groups_of_sumGroup? hg]
      exact push_of_settle hs ((isIdle_of_sumGroup? hg).trans (by simpa using hidle))
        (isRaw_of_sumGroup? hg _)
  cases h with
  | nil => exact hlay (by simp)
  | @cons top below h htop =>
    cases hsum : p.sum? top with
    | none =>
      simp only [place, hsum]
      exact hlay (by simpa using hsum)
    | some sum =>
      obtain ⟨g₁, g', gs, hg₁, hg', hgs, hmerged⟩ := exists_sumGroup? hsum
      obtain rfl : g = g₁ := Option.some.inj (hg.symm.trans hg₁)
      -- What is below does not take up the sum either, as it did not take up the piece on top.
      have hbelow : settle gs (stack below) = (some gs, stack below) :=
        settle_stack hgs fun next hnext =>
          (sum?_sum_eq_none_iff hsum next).mpr ((place_eq_cons_iff.mp htop).1 next hnext)
      have hidle := isIdle_of_sumGroup? hgs
      have hstack : stack (top :: below) = g' :: stack below := by
        rw [stack_cons, groups_of_sumGroup? hg']
        rfl
      cases hbusy : sum.isIdle with
      | true => simp [place, hsum, hstack, push, settle, hmerged, hidle, hbusy]
      | false =>
        simp [place, hsum, hstack, push, settle, hmerged, hidle, hbusy, hbelow,
          isRaw_of_sumGroup? hgs, stack_cons, groups_of_sumGroup? hgs]

end Sums

theorem place_of_sumGroup?_eq_none {p : Piece} (h : p.sumGroup? = none) (hc : p ≠ closing)
    (ps : List Piece) : place ps p = p :: ps := by
  refine place_eq_cons_iff.mpr ⟨fun top _ => ?_, ?_⟩
  · cases p <;> first | rfl | cases h
  · cases p <;> first | rfl | exact absurd rfl hc | cases h

theorem foldl_push_output (st : List Group) :
    output.groups.foldl push st = output.groups.reverse ++ st := by
  have hput : ∀ i ∈ Emit.output.take 4, i.op ≠ Op.stop := by decide
  have hspill : ∀ i ∈ (Emit.output.drop 8).dropLast, i.op ≠ Op.stop := by decide
  have hgroups : output.groups = (Emit.output.take 4).map Group.raw ++
      Group.move Emit.Var.cursor 1 ::
        ((Emit.output.drop 8).dropLast ++ [Emit.stop]).map Group.raw := rfl
  have hmove : push (((Emit.output.take 4).map Group.raw).reverse ++ st)
      (.move Emit.Var.cursor 1) =
        .move Emit.Var.cursor 1 :: (((Emit.output.take 4).map Group.raw).reverse ++ st) :=
    push_of_settle (settle_of_not_merged rfl _) rfl rfl
  rw [hgroups, List.foldl_append, foldl_push_raw hput, List.foldl_cons, hmove,
    foldl_push_raw_stop rfl hspill (List.cons_ne_nil _ _)]
  simp only [List.reverse_append, List.reverse_cons, List.append_assoc, List.cons_append,
    List.nil_append]

theorem eq_change_of_top {ps : List Piece} {v : UInt32} {arg : MemArg} {d : Int32}
    (h : (stack ps).head? = some (.change v arg d)) : ∃ below, ps = change d :: below := by
  cases ps with
  | nil => cases h
  | cons p below =>
    cases p with
    | change e =>
      obtain rfl : e = d := by
        cases h
        rfl
      exact ⟨below, rfl⟩
    | _ => cases h

theorem eq_opening_of_top {ps : List Piece} {imm : Immediate}
    (h : (stack ps).head? = some (.raw ⟨Op.loop, imm⟩)) : ∃ below, ps = opening :: below := by
  cases ps with
  | nil => cases h
  | cons p below =>
    cases p with
    | opening => exact ⟨below, rfl⟩
    | _ => cases h

/-- The end of a loop is laid on the stack, or the loop is cleared. -/
theorem foldl_push_closing (ps : List Piece) :
    closing.groups.foldl push (stack ps) = stack (place ps closing) := by
  have htest : ∀ i ∈ Emit.closeLoop.take 5, i.op ≠ Op.stop := by decide
  have hgroups : closing.groups =
      (Emit.closeLoop.take 5 ++ [Emit.stop]).map Group.raw ++ [.raw Emit.stop] := rfl
  have hend : closing.groups.foldl push (stack ps) =
      collapseClearing (closing.groups.reverse ++ stack ps) := by
    rw [hgroups, List.foldl_append, foldl_push_raw_stop rfl htest (List.cons_ne_nil _ _),
      List.foldl_cons, List.foldl_nil, push_stop rfl, List.reverse_append]
    rfl
  have hplace : place ps closing = closing.lay ps := by
    cases ps <;> rfl
  rw [hend, hplace]
  obtain ⟨-, hidle⟩ | ⟨hlaid, -⟩ | ⟨d, below, -, rfl, hd, hclear⟩ := lay_cases closing ps
  · cases hidle
  · obtain hsame | ⟨v, arg, d, outer, inner, ne, eqz, rest, hd, hstack, -⟩ :=
      collapseClearing_cases (closing.groups.reverse ++ stack ps)
    · rw [hsame, hlaid, stack_cons]
    · -- The loop on the stack is that of two pieces, which would not have been left.
      have htop := congrArg (fun st => (st.drop 7).head?) hstack
      obtain ⟨below, rfl⟩ := eq_change_of_top htop
      have hnext := congrArg (fun st => (st.drop 8).head?) hstack
      obtain ⟨below, rfl⟩ := eq_opening_of_top hnext
      have hlength := congrArg List.length hlaid
      simp [lay, hd] at hlength
  · rw [hclear, stack_cons]
    exact collapseClearing_loopGroups hd _ _ .none .none .none .none (stack below)

theorem foldl_push_groups {p : Piece} (hp : p ≠ clear) {ps : List Piece} (h : Tidy ps) :
    p.groups.foldl push (stack ps) = stack (place ps p) := by
  have hraw (hsum : p.sumGroup? = none) (hc : p ≠ closing)
      (hpush : p.groups.foldl push (stack ps) = p.groups.reverse ++ stack ps) :
      p.groups.foldl push (stack ps) = stack (place ps p) := by
    rw [hpush, place_of_sumGroup?_eq_none hsum hc, stack_cons]
  cases p with
  | move d => exact push_stack rfl h
  | change d => exact push_stack rfl h
  | clear => exact absurd rfl hp
  | cleared => exact hraw rfl nofun (foldl_push_raw (by decide) _)
  | output => exact hraw rfl nofun (foldl_push_output _)
  | input => exact hraw rfl nofun (foldl_push_raw (by decide) _)
  | opening => exact hraw rfl nofun (foldl_push_raw (by decide) _)
  | closing => exact foldl_push_closing ps

/-- The groups of a list of pieces leave the stack of the pieces placed. -/
theorem foldl_push_flatMap {ts : List Piece} (hts : ∀ t ∈ ts, t ≠ clear) {ps : List Piece}
    (h : Tidy ps) :
    (ts.flatMap groups).foldl push (stack ps) = stack (ts.foldl place ps) := by
  induction ts generalizing ps with
  | nil => rfl
  | cons t ts ih =>
    rw [List.flatMap_cons, List.foldl_append, foldl_push_groups (hts t (by simp)) h,
      ih (fun u hu => hts u (by simp [hu])) (h.place t)]
    rfl

end Piece

open Piece

def piecesCode (ts : List Piece) : List Instr :=
  Emit.prologue ++ ts.flatMap code ++ Emit.epilogue

theorem stackCode_raw (code : List Instr) (st : List Group) :
    stackCode ((code.map Group.raw).reverse ++ st) = stackCode st ++ code := by
  have h : (code.map Group.raw).flatMap Group.code = code := by
    simp [List.flatMap_map, Group.code]
  simp [stackCode, h]

/-- Condensing leaves the pieces that placing them one by one leaves. -/
theorem condense_piecesCode {ts : List Piece} (h : ∀ t ∈ ts, t ≠ clear) :
    condense (piecesCode ts) = piecesCode (ts.foldl place []).reverse := by
  have hstart : ∀ i ∈ Emit.prologue, i.op ≠ Op.stop := by decide
  have hflush : ∀ i ∈ Emit.flush, i.op ≠ Op.stop := by decide
  have hsplits : Splits (piecesCode ts)
      (Emit.prologue.map .raw ++ ts.flatMap groups ++ Emit.epilogue.map .raw) :=
    ((splits_raw rfl).append (Splits.flatMap fun t ht => splits_code (h t ht))).append
      (splits_raw rfl)
  have hread := hsplits [] []
  rw [List.append_nil, groupFrom] at hread
  have hbody : (ts.flatMap groups).foldl push ((Emit.prologue.map Group.raw).reverse ++ []) =
      stack (ts.foldl place []) := foldl_push_flatMap h Tidy.nil
  show stackCode (groupFrom 0 (piecesCode ts) []) = _
  rw [hread, List.foldl_append, List.foldl_append, foldl_push_raw hstart, hbody, Emit.epilogue,
    foldl_push_raw_stop rfl hflush (List.cons_ne_nil _ _), stackCode_raw, stackCode_stack]
  rfl

/-- Condensing the code of pieces a second time changes nothing. -/
theorem condense_condense_piecesCode {ts : List Piece} (h : ∀ t ∈ ts, t ≠ clear) :
    condense (condense (piecesCode ts)) = condense (piecesCode ts) := by
  have hreread (ps : List Piece) : piecesCode (ps.map reread) = piecesCode ps := by
    simp [piecesCode, List.flatMap_map, code_reread]
  have htidy := tidy_foldl ts [] .nil
  have hkept : ∀ t ∈ (ts.foldl place []).reverse.map reread, t ≠ clear := by
    rw [List.forall_mem_map]
    exact fun p _ => reread_ne_clear p
  rw [condense_piecesCode h, ← hreread, condense_piecesCode hkept, foldl_place_reread htidy,
    List.map_reverse]

theorem piecesCode_ofSymbol (bs : Bytes) :
    piecesCode ((bs.filterMap Symbol.ofByte?).map ofSymbol) = Emit.program bs := by
  have hsymbols : ((bs.filterMap Symbol.ofByte?).map ofSymbol).flatMap code = Emit.symbols bs := by
    induction bs with
    | nil => rfl
    | cons b bs ih =>
      cases hb : Symbol.ofByte? b with
      | none => simpa [Emit.symbols, hb] using ih
      | some s => simpa [Emit.symbols, hb, code_ofSymbol] using ih
  rw [piecesCode, hsymbols, Emit.program]

theorem ofSymbol_ne_clear_of_mem (ss : List Symbol) : ∀ t ∈ ss.map ofSymbol, t ≠ clear := by
  rw [List.forall_mem_map]
  intro s _
  cases s <;> nofun

/-- The condensed code of a tape program stays as it is. -/
theorem condense_condense_program (bs : Bytes) :
    condense (condense (Emit.program bs)) = condense (Emit.program bs) := by
  rw [← piecesCode_ofSymbol]
  exact condense_condense_piecesCode (ofSymbol_ne_clear_of_mem _)

end TapeWasm.Peephole
