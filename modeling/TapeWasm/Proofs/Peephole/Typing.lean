import TapeWasm.Proofs.Peephole.Rules

/-!
Condensing keeps accepted code accepted. Each piece of code that a rule replaces leaves the
checker's state as it was, also where the code cannot be reached, and so does its replacement.
-/
namespace TapeWasm.Peephole

open Wasm

structure Opened (c : Checker) : Prop where
  stacked : c.Stacked
  frames : c.frames ≠ []

/-- An operand of type `t` is taken where `want` is wanted. -/
def Suits (t want : ValueType) : Prop :=
  ¬ (t ≠ want ∧ t ≠ .unknown ∧ want ≠ .unknown)

section Steps

variable {s : Scope} {c d : Checker} {t u want : ValueType}

theorem Opened.push (hc : Opened c) (t : ValueType) : Opened (c.push t) := by
  obtain ⟨hstacked, hne⟩ := hc
  cases hstacked with
  | nil => exact absurd rfl hne
  | cons top h hg => exact ⟨.cons (t :: top) h hg, hne⟩

theorem Opened.pop_push (hc : Opened c) : (c.push t).pop = .ok (t, c) := by
  obtain ⟨hstacked, hne⟩ := hc
  cases hstacked with
  | nil => exact absurd rfl hne
  | cons top _ hg => exact Checker.pop_eq hg (t :: top)

theorem Opened.expect_push_iff (hc : Opened c) :
    (c.push t).expect want = .ok d ↔ Suits t want ∧ d = c := by
  unfold Checker.expect Checker.popType
  rw [hc.pop_push]
  by_cases h : t ≠ want ∧ t ≠ .unknown ∧ want ≠ .unknown
  · simp [Suits, h, bind, Except.bind]
  · simp [Suits, h, bind, Except.bind, pure, Except.pure, eq_comm]

theorem step_get_iff {v : UInt32} :
    s.step ⟨Op.localGet, .localVar v⟩ c = .ok d ↔
      ∃ t, s.locals[v.toNat]? = some t ∧ d = c.push t := by
  change s.localStep Op.localGet v c = .ok d ↔ _
  unfold Scope.localStep
  cases s.locals[v.toNat]? with
  | none => simp
  | some t =>
    change Except.ok (c.push t) = .ok d ↔ _
    simp [eq_comm]

theorem step_set_iff {v : UInt32} (hc : Opened c) :
    s.step ⟨Op.localSet, .localVar v⟩ (c.push t) = .ok d ↔
      ∃ u, s.locals[v.toNat]? = some u ∧ Suits t u ∧ d = c := by
  change s.localStep Op.localSet v (c.push t) = .ok d ↔ _
  unfold Scope.localStep
  cases s.locals[v.toNat]? with
  | none => simp
  | some u =>
    change (c.push t).expect u = .ok d ↔ _
    simpa using hc.expect_push_iff

theorem step_const_iff {k : Int32} :
    s.step ⟨Op.i32Const, .i32 k⟩ c = .ok d ↔ d = c.push .i32 := by
  change Except.ok (c.push .i32) = .ok d ↔ _
  simp [eq_comm]

/-- Instructions that take two words and leave one. -/
theorem step_binary_iff {op : UInt8} (hc : Opened c)
    (h : ∀ c, s.step ⟨op, .none⟩ c = (do
      let c ← c.expectAll [.i32, .i32]
      return c.pushAll [.i32])) :
    s.step ⟨op, .none⟩ ((c.push t).push u) = .ok d ↔
      Suits u .i32 ∧ Suits t .i32 ∧ d = c.push .i32 := by
  rw [h, except_bind_ok_iff]
  constructor
  · rintro ⟨c₁, hall, hd⟩
    obtain ⟨c₂, hu, hrest⟩ := except_bind_ok_iff.mp hall
    obtain ⟨hsu, rfl⟩ := (hc.push t).expect_push_iff.mp hu
    obtain ⟨c₃, ht, hnil⟩ := except_bind_ok_iff.mp hrest
    obtain ⟨hst, rfl⟩ := hc.expect_push_iff.mp ht
    obtain rfl := Except.ok.inj hnil
    exact ⟨hsu, hst, (except_pure_ok_iff.mp hd).symm⟩
  · rintro ⟨hu, ht, rfl⟩
    refine ⟨c, ?_, rfl⟩
    refine except_bind_ok_iff.mpr ⟨_, (hc.push t).expect_push_iff.mpr ⟨hu, rfl⟩, ?_⟩
    exact except_bind_ok_iff.mpr ⟨_, hc.expect_push_iff.mpr ⟨ht, rfl⟩, rfl⟩

theorem step_moves_iff {op : UInt8} {k k' : Int32} (h : Moves op k k') (hc : Opened c) :
    s.step ⟨op, .none⟩ ((c.push t).push u) = .ok d ↔
      Suits u .i32 ∧ Suits t .i32 ∧ d = c.push .i32 := by
  cases h <;> exact step_binary_iff hc fun _ => rfl

/-- There is a memory, and words in it may be read and written with this alignment. -/
def WordAccess (s : Scope) (arg : MemArg) : Prop :=
  s.needMemory 0 = .ok () ∧ ¬ (2 : UInt32) < arg.align

theorem memoryStep_ok_iff {arg : MemArg} {acc : Access} (hacc : acc.naturalAlign = 2) :
    s.memoryStep arg acc c = .ok d ↔ WordAccess s arg ∧
      (if acc.isStore then do
        let c ← c.expect acc.value
        c.expect .i32
      else do
        let c ← c.expect .i32
        return c.push acc.value) = .ok d := by
  unfold Scope.memoryStep WordAccess
  rw [hacc]
  cases s.needMemory 0 with
  | error f => simp [bind, Except.bind]
  | ok _ =>
    by_cases h : (2 : UInt32) < arg.align
    · simp [h, bind, Except.bind]
    · simp [h, bind, Except.bind]

theorem step_load_iff {arg : MemArg} (hc : Opened c) :
    s.step ⟨Op.i32Load, .memory arg⟩ (c.push t) = .ok d ↔
      WordAccess s arg ∧ Suits t .i32 ∧ d = c.push .i32 := by
  refine Iff.trans (memoryStep_ok_iff rfl) (and_congr_right fun _ => ?_)
  refine Iff.trans except_bind_ok_iff ⟨?_, ?_⟩
  · rintro ⟨c₁, ht, hd⟩
    obtain ⟨hst, rfl⟩ := hc.expect_push_iff.mp ht
    exact ⟨hst, (except_pure_ok_iff.mp hd).symm⟩
  · rintro ⟨ht, rfl⟩
    exact ⟨c, hc.expect_push_iff.mpr ⟨ht, rfl⟩, rfl⟩

theorem step_store_iff {arg : MemArg} (hc : Opened c) :
    s.step ⟨Op.i32Store, .memory arg⟩ ((c.push t).push u) = .ok d ↔
      WordAccess s arg ∧ Suits u .i32 ∧ Suits t .i32 ∧ d = c := by
  refine Iff.trans (memoryStep_ok_iff rfl) (and_congr_right fun _ => ?_)
  refine Iff.trans except_bind_ok_iff ⟨?_, ?_⟩
  · rintro ⟨c₁, hu, ht⟩
    obtain ⟨hsu, rfl⟩ := (hc.push t).expect_push_iff.mp hu
    exact ⟨hsu, hc.expect_push_iff.mp ht⟩
  · rintro ⟨hu, ht⟩
    exact ⟨_, (hc.push t).expect_push_iff.mpr ⟨hu, rfl⟩, hc.expect_push_iff.mpr ht⟩

end Steps

/-! The pieces of code of the rules. -/

section Pieces

variable {s : Scope} {c e : Checker} {v : UInt32} {arg : MemArg} {op : UInt8} {k d : Int32}

def WordVar (s : Scope) (v : UInt32) : Prop :=
  ∃ t, s.locals[v.toNat]? = some t ∧ Suits t .i32

theorem suits_self (t : ValueType) : Suits t t :=
  fun h => h.1 rfl

theorem Suits.symm {t want : ValueType} (h : Suits t want) : Suits want t :=
  fun ⟨hne, hw, ht⟩ => h ⟨hne.symm, ht, hw⟩

/-- A move is accepted for a variable of words, and changes nothing on the stack. -/
theorem checks_move_iff (h : Moves op k d) (hc : Opened c) :
    s.Checks (moveCode v op k) c e ↔ WordVar s v ∧ e = c := by
  constructor
  · rintro ⟨-, c₁, h₁, -, c₂, h₂, -, c₃, h₃, -, c₄, h₄, rfl⟩
    obtain ⟨t, ht, rfl⟩ := step_get_iff.mp h₁
    obtain rfl := step_const_iff.mp h₂
    obtain ⟨-, hst, rfl⟩ := (step_moves_iff h hc).mp h₃
    obtain ⟨u, -, -, hd⟩ := (step_set_iff hc).mp h₄
    exact ⟨⟨t, ht, hst⟩, hd⟩
  · rintro ⟨⟨t, ht, hst⟩, rfl⟩
    refine ⟨hc.frames, _, step_get_iff.mpr ⟨t, ht, rfl⟩, hc.frames, _, step_const_iff.mpr rfl,
      hc.frames, _, (step_moves_iff h hc).mpr ⟨suits_self _, hst, rfl⟩, hc.frames, _,
      (step_set_iff hc).mpr ⟨t, ht, hst.symm, rfl⟩, rfl⟩

/-- A change is accepted for a variable of words in a module with a memory. -/
theorem checks_change_iff (h : Moves op k d) (hc : Opened c) :
    s.Checks (changeCode v arg op k) c e ↔ (WordVar s v ∧ WordAccess s arg) ∧ e = c := by
  constructor
  · rintro ⟨-, c₁, h₁, -, c₂, h₂, -, c₃, h₃, -, c₄, h₄, -, c₅, h₅, -, c₆, h₆, rfl⟩
    obtain ⟨t, ht, rfl⟩ := step_get_iff.mp h₁
    obtain ⟨u, hu, rfl⟩ := step_get_iff.mp h₂
    obtain ⟨haccess, hsu, rfl⟩ := (step_load_iff (hc.push t)).mp h₃
    obtain rfl := step_const_iff.mp h₄
    obtain ⟨-, -, rfl⟩ := (step_moves_iff h (hc.push t)).mp h₅
    obtain ⟨-, -, -, hd⟩ := (step_store_iff hc).mp h₆
    exact ⟨⟨⟨u, hu, hsu⟩, haccess⟩, hd⟩
  · rintro ⟨⟨⟨t, ht, hst⟩, haccess⟩, rfl⟩
    have hget (c : Checker) : s.step ⟨Op.localGet, .localVar v⟩ c = .ok (c.push t) :=
      step_get_iff.mpr ⟨t, ht, rfl⟩
    refine ⟨hc.frames, _, hget _, hc.frames, _, hget _,
      hc.frames, _, (step_load_iff (hc.push t)).mpr ⟨haccess, hst, rfl⟩,
      hc.frames, _, step_const_iff.mpr rfl,
      hc.frames, _, (step_moves_iff h (hc.push t)).mpr ⟨suits_self _, suits_self _, rfl⟩,
      hc.frames, _, (step_store_iff hc).mpr ⟨haccess, suits_self _, hst, rfl⟩, rfl⟩

theorem checks_clear (hv : WordVar s v) (haccess : WordAccess s arg) (hc : Opened c) :
    s.Checks (Group.clear v arg).code c c := by
  obtain ⟨t, ht, hst⟩ := hv
  exact ⟨hc.frames, _, step_get_iff.mpr ⟨t, ht, rfl⟩, hc.frames, _, step_const_iff.mpr rfl,
    hc.frames, _, (step_store_iff hc).mpr ⟨haccess, suits_self _, hst, rfl⟩, rfl⟩

/-- A loop that clears a word needs what the store of a zero needs, and the code after it is checked
from the same state. -/
theorem checks_of_clearLoop {after : List Instr} {final : List ValueType} (hc : Opened c)
    (hw : ∀ i ∈ clearLoop v arg d ++ after, i.WellShaped)
    (h : s.Checks (clearLoop v arg d ++ after) c ⟨final, []⟩) :
    WordVar s v ∧ WordAccess s arg ∧ s.Checks after c ⟨final, []⟩ := by
  obtain ⟨-, c₁, hblock, -, c₂, hget, -, c₃, hload, hrest⟩ := h
  obtain rfl := Scope.blockStart_empty (by decide) hblock
  have hc₁ : Opened ⟨c.operands, ⟨.block, {}, c.operands.length, false⟩ :: c.frames⟩ :=
    ⟨.cons [] hc.stacked rfl, List.cons_ne_nil _ _⟩
  obtain ⟨t, ht, rfl⟩ := step_get_iff.mp hget
  obtain ⟨haccess, hst, rfl⟩ := (step_load_iff hc₁).mp hload
  have hin : Checker.Inside [] c.operands c.frames 0
      ⟨[.i32] ++ c.operands, ⟨.block, {}, c.operands.length, false⟩ :: c.frames⟩ :=
    .here _ rfl rfl
  obtain ⟨rest, hend, -, hchecks⟩ := hin.afterEnd hrest fun i hi =>
    hw i (List.mem_cons_of_mem _ (List.mem_cons_of_mem _ (List.mem_cons_of_mem _ hi)))
  have hlevel := level_changeCode (moves_stepBy d) v arg 1 (clearTail v arg ++ after)
  obtain rfl : after = rest := Option.some.inj (hlevel.symm.trans hend)
  exact ⟨⟨t, ht, hst⟩, haccess, hchecks⟩

/-- A rule keeps accepted code accepted. -/
theorem Rule.checks {a b after : List Instr} (h : Rule a b) {final : List ValueType}
    (hc : Opened c) (hw : ∀ i ∈ a ++ after, i.WellShaped)
    (ha : s.Checks (a ++ after) c ⟨final, []⟩) : s.Checks (b ++ after) c ⟨final, []⟩ := by
  have hmove (v : UInt32) (d : Int32) {e : Checker} :
      s.Checks (Group.move v d).code c e ↔ WordVar s v ∧ e = c :=
    checks_move_iff (moves_stepBy d) hc
  have hchange (v : UInt32) (arg : MemArg) (d : Int32) {e : Checker} :
      s.Checks (Group.change v arg d).code c e ↔ (WordVar s v ∧ WordAccess s arg) ∧ e = c :=
    checks_change_iff (moves_stepBy d) hc
  rw [Scope.checks_append]
  cases h with
  | @move v op k d h =>
    obtain ⟨e, hpiece, hafter⟩ := Scope.checks_append.mp ha
    exact ⟨e, (hmove v d).mpr ((checks_move_iff h hc).mp hpiece), hafter⟩
  | @change v arg op k d h =>
    obtain ⟨e, hpiece, hafter⟩ := Scope.checks_append.mp ha
    exact ⟨e, (hchange v arg d).mpr ((checks_change_iff h hc).mp hpiece), hafter⟩
  | addMoves v d e =>
    obtain ⟨c₂, hpieces, hafter⟩ := Scope.checks_append.mp ha
    obtain ⟨c₁, hfirst, hsecond⟩ := Scope.checks_append.mp hpieces
    obtain ⟨-, rfl⟩ := (hmove v d).mp hfirst
    exact ⟨c₂, (hmove v (e + d)).mpr ((hmove v e).mp hsecond), hafter⟩
  | addChanges v arg d e =>
    obtain ⟨c₂, hpieces, hafter⟩ := Scope.checks_append.mp ha
    obtain ⟨c₁, hfirst, hsecond⟩ := Scope.checks_append.mp hpieces
    obtain ⟨-, rfl⟩ := (hchange v arg d).mp hfirst
    exact ⟨c₂, (hchange v arg (e + d)).mpr ((hchange v arg e).mp hsecond), hafter⟩
  | idleMove v =>
    obtain ⟨e, hpiece, hafter⟩ := Scope.checks_append.mp ha
    exact ⟨e, ((hmove v 0).mp hpiece).2.symm, hafter⟩
  | idleChange v arg =>
    obtain ⟨e, hpiece, hafter⟩ := Scope.checks_append.mp ha
    exact ⟨e, ((hchange v arg 0).mp hpiece).2.symm, hafter⟩
  | @clear v arg d _ =>
    obtain ⟨hv, haccess, hafter⟩ := checks_of_clearLoop hc hw ha
    exact ⟨c, checks_clear hv haccess hc, hafter⟩

end Pieces

theorem Rule.ne_nil {a b : List Instr} (h : Rule a b) : a ≠ [] := by
  cases h <;> exact List.cons_ne_nil _ _

/-- Replacing pieces keeps accepted code accepted. -/
theorem Reduces.checks {a b : List Instr} (h : Reduces a b) {s : Scope} {c : Checker}
    {final : List ValueType} (hc : c.Stacked) (hw : ∀ i ∈ a, i.WellShaped)
    (ha : s.Checks a c ⟨final, []⟩) : s.Checks b c ⟨final, []⟩ := by
  induction h with
  | refl => exact ha
  | @tail a' b' hab hstep ih =>
    have hw' := Reduces.wellShaped hab hw
    cases hstep with
    | at_ before after h =>
      rw [List.append_assoc] at ih hw' ⊢
      obtain ⟨d, hbefore, hrest⟩ := Scope.checks_append.mp ih
      refine Scope.checks_append.mpr ⟨d, hbefore, ?_⟩
      have hd : d.frames ≠ [] := by
        obtain ⟨i, is, rfl⟩ := List.exists_cons_of_ne_nil h.ne_nil
        exact hrest.1
      have hstacked := hbefore.stacked (fun i hi => hw' i (List.mem_append_left _ hi)) hc
      exact h.checks ⟨hstacked, hd⟩ (fun i hi => hw' i (List.mem_append_right _ hi)) hrest

end TapeWasm.Peephole
