import Mathlib.Logic.Relation
import TapeWasm.Peephole.Condense
import TapeWasm.Proofs.Codec.Instr
import TapeWasm.Proofs.Typing.Nesting

/-!
Condensing as a sequence of local replacements. `Rule` lists the replacements; each may be made
anywhere in a body. Whatever holds of every rule in every place then holds of a condensed body.
-/
namespace TapeWasm.Peephole

open Wasm Machine Relation

/-- An operation with the constant `k` moves its operand by `d`. -/
inductive Moves : UInt8 → Int32 → Int32 → Prop
  | add (k : Int32) : Moves Op.i32Add k k
  | sub (k : Int32) : Moves Op.i32Sub k (-k)

def moveCode (v : UInt32) (op : UInt8) (k : Int32) : List Instr :=
  [⟨Op.localGet, .localVar v⟩, ⟨Op.i32Const, .i32 k⟩, ⟨op, .none⟩, ⟨Op.localSet, .localVar v⟩]

def changeCode (v : UInt32) (arg : MemArg) (op : UInt8) (k : Int32) : List Instr :=
  [⟨Op.localGet, .localVar v⟩, ⟨Op.localGet, .localVar v⟩, ⟨Op.i32Load, .memory arg⟩,
   ⟨Op.i32Const, .i32 k⟩, ⟨op, .none⟩, ⟨Op.i32Store, .memory arg⟩]

/-- The start of a loop that goes on while a cell is not zero, and of the block around it. -/
def clearHead (v : UInt32) (arg : MemArg) : List Instr :=
  [⟨Op.block, .block emptyType⟩, ⟨Op.localGet, .localVar v⟩, ⟨Op.i32Load, .memory arg⟩,
   ⟨Op.i32Eqz, .none⟩, ⟨Op.brIf, .branch 0⟩, ⟨Op.loop, .block emptyType⟩]

/-- The end of that loop and of the block. -/
def clearTail (v : UInt32) (arg : MemArg) : List Instr :=
  [⟨Op.localGet, .localVar v⟩, ⟨Op.i32Load, .memory arg⟩, ⟨Op.i32Const, .i32 0⟩,
   ⟨Op.i32Ne, .none⟩, ⟨Op.brIf, .branch 0⟩, ⟨Op.stop, .none⟩, ⟨Op.stop, .none⟩]

/-- A loop that changes a cell until it is zero. -/
def clearLoop (v : UInt32) (arg : MemArg) (d : Int32) : List Instr :=
  clearHead v arg ++ ((Group.change v arg d).code ++ clearTail v arg)

/-- The replacements that condensing makes. -/
inductive Rule : List Instr → List Instr → Prop
  | move (v : UInt32) {op : UInt8} {k d : Int32} (h : Moves op k d) :
      Rule (moveCode v op k) (Group.move v d).code
  | change (v : UInt32) (arg : MemArg) {op : UInt8} {k d : Int32} (h : Moves op k d) :
      Rule (changeCode v arg op k) (Group.change v arg d).code
  | addMoves (v : UInt32) (d e : Int32) :
      Rule ((Group.move v d).code ++ (Group.move v e).code) (Group.move v (e + d)).code
  | addChanges (v : UInt32) (arg : MemArg) (d e : Int32) :
      Rule ((Group.change v arg d).code ++ (Group.change v arg e).code)
        (Group.change v arg (e + d)).code
  | idleMove (v : UInt32) : Rule (Group.move v 0).code []
  | idleChange (v : UInt32) (arg : MemArg) : Rule (Group.change v arg 0).code []
  | clear (v : UInt32) (arg : MemArg) {d : Int32} (h : d % 2 ≠ 0) :
      Rule (clearLoop v arg d) (Group.clear v arg).code

/-- The replacements that may be made if changes are dropped only where `drops` holds. -/
def Permitted (drops : Prop) (a b : List Instr) : Prop :=
  Rule a b ∧ (b = [] → drops ∨ ∃ v, a = (Group.move v 0).code)

/-- One replacement, anywhere in a body. -/
inductive Replaces (R : List Instr → List Instr → Prop) : List Instr → List Instr → Prop
  | at_ (before after : List Instr) {a b : List Instr} (h : R a b) :
      Replaces R (before ++ a ++ after) (before ++ b ++ after)

abbrev ReducesBy (R : List Instr → List Instr → Prop) : List Instr → List Instr → Prop :=
  ReflTransGen (Replaces R)

/-- Any number of replacements, by any of the rules. -/
abbrev Reduces : List Instr → List Instr → Prop :=
  ReducesBy Rule

theorem moves_stepBy (d : Int32) : Moves (stepBy d).1 (stepBy d).2 d := by
  unfold stepBy
  split
  · have h := Moves.sub (-d)
    rwa [Int32.neg_neg] at h
  · exact .add d

theorem code_move (v : UInt32) (d : Int32) :
    (Group.move v d).code = moveCode v (stepBy d).1 (stepBy d).2 := rfl

theorem code_change (v : UInt32) (arg : MemArg) (d : Int32) :
    (Group.change v arg d).code = changeCode v arg (stepBy d).1 (stepBy d).2 := rfl

theorem ReducesBy.context {R : List Instr → List Instr → Prop} {a b : List Instr}
    (h : ReducesBy R a b) (before after : List Instr) :
    ReducesBy R (before ++ a ++ after) (before ++ b ++ after) := by
  refine ReflTransGen.lift (fun c => before ++ c ++ after) (fun a b hab => ?_) _ _ h
  cases hab with
  | at_ before' after' h =>
    simpa only [Function.onFun, List.append_assoc] using
      Replaces.at_ (before ++ before') (after' ++ after) h

theorem Permitted.reduces {drops : Prop} {a b : List Instr} (h : Permitted drops a b) :
    ReducesBy (Permitted drops) a b := by
  simpa using ReflTransGen.single (Replaces.at_ [] [] h)

/-- A rule that leaves some code drops nothing. -/
theorem Rule.reduces {drops : Prop} {a b : List Instr} (h : Rule a b) (hb : b ≠ []) :
    ReducesBy (Permitted drops) a b :=
  Permitted.reduces ⟨h, fun hnil => absurd hnil hb⟩

theorem ReducesBy.reduces {drops : Prop} {a b : List Instr} (h : ReducesBy (Permitted drops) a b) :
    Reduces a b := by
  refine ReflTransGen.mono (fun a b hab => ?_) _ _ h
  cases hab with
  | at_ before after h => exact .at_ before after h.1

theorem Moves.encodable {op : UInt8} {k d : Int32} (h : Moves op k d) :
    Instr.Encodable ⟨op, .none⟩ := by
  cases h <;> exact ⟨rfl, trivial⟩

theorem Rule.encodable {a b : List Instr} (h : Rule a b) : ∀ i ∈ b, i.Encodable := by
  have hmove (v : UInt32) (d : Int32) : ∀ i ∈ (Group.move v d).code, i.Encodable := by
    simp only [code_move, moveCode, List.forall_mem_cons]
    exact ⟨⟨rfl, trivial⟩, ⟨rfl, trivial⟩, (moves_stepBy d).encodable, ⟨rfl, trivial⟩, by simp⟩
  have hchange (v : UInt32) (arg : MemArg) (d : Int32) :
      ∀ i ∈ (Group.change v arg d).code, i.Encodable := by
    simp only [code_change, changeCode, List.forall_mem_cons]
    exact ⟨⟨rfl, trivial⟩, ⟨rfl, trivial⟩, ⟨rfl, trivial⟩, ⟨rfl, trivial⟩,
      (moves_stepBy d).encodable, ⟨rfl, trivial⟩, by simp⟩
  cases h with
  | move v _ | addMoves v => exact hmove v _
  | change v arg _ | addChanges v arg => exact hchange v arg _
  | idleMove | idleChange => simp
  | clear v arg _ =>
    simp only [Group.code, List.forall_mem_cons]
    exact ⟨⟨rfl, trivial⟩, ⟨rfl, trivial⟩, ⟨rfl, trivial⟩, by simp⟩

/-- What holds of all instructions, and of those that rules bring in, holds after replacing. -/
theorem Reduces.forall_mem {P : Instr → Prop} (hP : ∀ i, i.Encodable → P i) {a b : List Instr}
    (h : Reduces a b) (ha : ∀ i ∈ a, P i) : ∀ i ∈ b, P i := by
  induction h with
  | refl => exact ha
  | tail _ hstep ih =>
    cases hstep with
    | at_ before after h =>
      simp only [List.mem_append, or_imp, forall_and] at ih ⊢
      exact ⟨⟨ih.1.1, fun i hi => hP i (h.encodable i hi)⟩, ih.2⟩

theorem Reduces.wellShaped {a b : List Instr} (h : Reduces a b) (ha : ∀ i ∈ a, i.WellShaped) :
    ∀ i ∈ b, i.WellShaped :=
  h.forall_mem (fun _ hi => hi.wellShaped) ha

/-! Pieces that branches pass over. -/

theorem level_moveCode {op : UInt8} {k d : Int32} (h : Moves op k d) (v : UInt32) :
    Level (moveCode v op k) := by
  intro depth after
  cases h <;> rfl

theorem level_changeCode {op : UInt8} {k d : Int32} (h : Moves op k d) (v : UInt32)
    (arg : MemArg) : Level (changeCode v arg op k) := by
  intro depth after
  cases h <;> rfl

theorem level_clearLoop (v : UInt32) (arg : MemArg) (d : Int32) : Level (clearLoop v arg d) := by
  intro depth after
  calc afterEnd depth (clearLoop v arg d ++ after)
      = afterEnd (depth + 2) ((Group.change v arg d).code ++ (clearTail v arg ++ after)) := by
        rw [clearLoop, List.append_assoc, List.append_assoc]
        rfl
    _ = afterEnd (depth + 2) (clearTail v arg ++ after) :=
        level_changeCode (moves_stepBy d) v arg _ _
    _ = afterEnd depth after := rfl

/-! The groups on the stack stand for the code so far. -/

def stackCode (stack : List Group) : List Instr :=
  stack.reverse.flatMap Group.code

@[simp] theorem stackCode_cons (g : Group) (stack : List Group) :
    stackCode (g :: stack) = stackCode stack ++ g.code := by
  simp [stackCode]

def isChange : Group → Bool
  | .change .. => true
  | _ => false

/-- Putting a group on the stack drops a change: it comes to nothing with those on top. -/
def dropsChange (stack : List Group) (g : Group) : Bool :=
  isChange g && (settle g stack).1.all isIdle

/-- Grouping the instructions drops a change somewhere. -/
def dropsFrom : Nat → List Instr → List Group → Bool
  | _, [], _ => false
  | skip + 1, _ :: is, stack => dropsFrom skip is stack
  | 0, i :: is, stack =>
    let (g, more) := groupAt i is
    dropsChange stack g || dropsFrom more is (push stack g)

section Reductions

variable {drops : Prop}

theorem reduces_merged {g top sum : Group} (h : merged? g top = some sum) :
    ReducesBy (Permitted drops) (top.code ++ g.code) sum.code := by
  unfold merged? at h
  split at h
  · split at h
    · rename_i v d w e heq
      subst heq
      obtain rfl := Option.some.inj h
      exact (Rule.addMoves v e d).reduces (List.cons_ne_nil _ _)
    · cases h
  · split at h
    · rename_i v a d w b e heq
      obtain ⟨rfl, rfl⟩ := heq
      obtain rfl := Option.some.inj h
      exact (Rule.addChanges v a e d).reduces (List.cons_ne_nil _ _)
    · cases h
  · cases h

theorem isChange_merged {g top sum : Group} (h : merged? g top = some sum) :
    isChange sum = isChange g := by
  unfold merged? at h
  split at h
  · split at h
    · exact Option.some.inj h ▸ rfl
    · cases h
  · split at h
    · exact Option.some.inj h ▸ rfl
    · cases h
  · cases h

theorem isChange_settle {g g' : Group} {stack : List Group} (h : (settle g stack).1 = some g') :
    isChange g' = isChange g := by
  induction stack generalizing g with
  | nil => exact Option.some.inj h ▸ rfl
  | cons top below ih =>
    unfold settle at h
    cases hm : merged? g top with
    | none =>
      rw [hm] at h
      exact Option.some.inj h ▸ rfl
    | some sum =>
      simp only [hm] at h
      split at h
      · cases h
      · rw [ih h, isChange_merged hm]

theorem reduces_idle {g : Group} (h : isIdle g = true) (hg : drops ∨ isChange g = false) :
    ReducesBy (Permitted drops) g.code [] := by
  cases g with
  | raw i => cases h
  | move v d =>
    obtain rfl : d = 0 := by simpa [isIdle] using h
    exact Permitted.reduces ⟨.idleMove v, fun _ => .inr ⟨v, rfl⟩⟩
  | change v arg d =>
    obtain rfl : d = 0 := by simpa [isIdle] using h
    have hdrops : drops := hg.resolve_right (by simp [isChange])
    exact Permitted.reduces ⟨.idleChange v arg, fun _ => .inl hdrops⟩
  | clear v arg => cases h

/-- What merging a group with those below it leaves: the code of the group, if it is still there. -/
theorem reduces_settle (g : Group) (stack : List Group)
    (hg : drops ∨ isChange g = false ∨ (settle g stack).1 ≠ none) :
    ReducesBy (Permitted drops) (stackCode stack ++ g.code)
      (stackCode (settle g stack).2 ++ ((settle g stack).1.map Group.code).getD []) := by
  induction stack generalizing g with
  | nil => exact .refl
  | cons top below ih =>
    unfold settle at hg ⊢
    cases hm : merged? g top with
    | none => exact .refl
    | some sum =>
      have hsum : ReducesBy (Permitted drops) (stackCode (top :: below) ++ g.code)
          (stackCode below ++ sum.code) := by
        have h : ReducesBy (Permitted drops) _ _ := reduces_merged hm
        simpa using h.context (stackCode below) []
      simp only [hm, ← isChange_merged hm] at hg ⊢
      split
      · rename_i hidle
        simp only [hidle, if_true, ne_eq, not_true, or_false] at hg
        have h := (reduces_idle hidle hg).context (stackCode below) []
        exact hsum.trans (by simpa using h)
      · rename_i hidle
        simp only [hidle] at hg
        exact hsum.trans (ih sum hg)

theorem eq_raw_of_isRaw {op : UInt8} {g : Group} {imm : Immediate} (h : isRaw op g = some imm) :
    g = .raw ⟨op, imm⟩ := by
  cases g with
  | raw i =>
    obtain ⟨op', imm'⟩ := i
    obtain ⟨rfl, himm⟩ : op' = op ∧ imm' = imm := by simpa [isRaw] using h
    rw [himm]
  | move | change | clear => cases h

theorem eq_raw_of_isCellRead {v : UInt32} {arg : MemArg} {get load : Group}
    (h : isCellRead v arg get load = true) :
    get = .raw ⟨Op.localGet, .localVar v⟩ ∧ load = .raw ⟨Op.i32Load, .memory arg⟩ := by
  simp only [isCellRead, Bool.and_eq_true, beq_iff_eq] at h
  exact ⟨eq_raw_of_isRaw h.1, eq_raw_of_isRaw h.2⟩

/-- The groups of a loop that changes a cell until it is zero, topmost first. Some of its
instructions are looked at by their operation only. -/
def loopGroups (v : UInt32) (arg : MemArg) (d : Int32) (outer inner ne eqz : Immediate) :
    List Group :=
  [.raw ⟨Op.stop, outer⟩, .raw ⟨Op.stop, inner⟩, .raw ⟨Op.brIf, .branch 0⟩, .raw ⟨Op.i32Ne, ne⟩,
   .raw ⟨Op.i32Const, .i32 0⟩, .raw ⟨Op.i32Load, .memory arg⟩, .raw ⟨Op.localGet, .localVar v⟩,
   .change v arg d, .raw ⟨Op.loop, .block emptyType⟩, .raw ⟨Op.brIf, .branch 0⟩,
   .raw ⟨Op.i32Eqz, eqz⟩, .raw ⟨Op.i32Load, .memory arg⟩, .raw ⟨Op.localGet, .localVar v⟩,
   .raw ⟨Op.block, .block emptyType⟩]

/-- Collapsing leaves the stack as it is unless such a loop with an odd step is on top. -/
theorem collapseClearing_cases (stack : List Group) :
    collapseClearing stack = stack ∨ ∃ v arg d outer inner ne eqz below, d % 2 ≠ 0 ∧
      stack = loopGroups v arg d outer inner ne eqz ++ below ∧
      collapseClearing stack = .clear v arg :: below := by
  fun_cases collapseClearing stack with
  | case1 end1 end0 again ne zero load1 get1 v arg d loop leave eqz load0 get0 block below h =>
    obtain ⟨hodd, hblock, hread0, heqz, hleave, hloop, hread1, hzero, hne, hagain, hend0,
      hend1⟩ := h
    obtain ⟨outer, houter⟩ := Option.isSome_iff_exists.mp hend1
    obtain ⟨inner, hinner⟩ := Option.isSome_iff_exists.mp hend0
    obtain ⟨test, htest⟩ := Option.isSome_iff_exists.mp hne
    obtain ⟨zeroTest, hzeroTest⟩ := Option.isSome_iff_exists.mp heqz
    obtain ⟨rfl, rfl⟩ := eq_raw_of_isCellRead hread0
    obtain ⟨rfl, rfl⟩ := eq_raw_of_isCellRead hread1
    obtain rfl := eq_raw_of_isRaw hblock
    obtain rfl := eq_raw_of_isRaw hleave
    obtain rfl := eq_raw_of_isRaw hloop
    obtain rfl := eq_raw_of_isRaw hzero
    obtain rfl := eq_raw_of_isRaw hagain
    obtain rfl := eq_raw_of_isRaw houter
    obtain rfl := eq_raw_of_isRaw hinner
    obtain rfl := eq_raw_of_isRaw htest
    obtain rfl := eq_raw_of_isRaw hzeroTest
    exact .inr ⟨v, arg, d, outer, inner, test, zeroTest, below, hodd, rfl, rfl⟩
  | case2 => exact .inl rfl
  | case3 => exact .inl rfl

theorem reduces_collapse (stack : List Group) (h : ∀ i ∈ stackCode stack, i.WellShaped) :
    ReducesBy (Permitted drops) (stackCode stack) (stackCode (collapseClearing stack)) := by
  obtain hsame | ⟨v, arg, d, outer, inner, ne, eqz, below, hodd, rfl, hcollapse⟩ :=
    collapseClearing_cases stack
  · rw [hsame]
  · have hw (op : UInt8) (imm : Immediate) (hop : shape? op = some .bare)
        (hmem : Group.raw ⟨op, imm⟩ ∈ loopGroups v arg d outer inner ne eqz) : imm = .none := by
      refine Instr.imm_of_bare hop (h ⟨op, imm⟩ ?_)
      simp only [stackCode, List.mem_flatMap, List.mem_reverse, List.mem_append]
      exact ⟨_, .inl hmem, List.mem_singleton_self _⟩
    obtain rfl := hw Op.stop outer rfl (by simp [loopGroups])
    obtain rfl := hw Op.stop inner rfl (by simp [loopGroups])
    obtain rfl := hw Op.i32Ne ne rfl (by simp [loopGroups])
    obtain rfl := hw Op.i32Eqz eqz rfl (by simp [loopGroups])
    have hclear : ReducesBy (Permitted drops) _ _ :=
      (Rule.clear v arg hodd).reduces (List.cons_ne_nil _ _)
    rw [hcollapse]
    have h := hclear.context (stackCode below) []
    simpa [loopGroups, clearLoop, clearHead, clearTail, Group.code] using h

theorem reduces_push (stack : List Group) (g : Group)
    (hw : ∀ i ∈ stackCode stack ++ g.code, i.WellShaped)
    (hg : drops ∨ dropsChange stack g = false) :
    ReducesBy (Permitted drops) (stackCode stack ++ g.code) (stackCode (push stack g)) := by
  have hkept (hall : (settle g stack).1.all isIdle = true) : drops ∨ isChange g = false := by
    simpa [dropsChange, hall] using hg
  have hleft : drops ∨ isChange g = false ∨ (settle g stack).1 ≠ none := by
    by_cases hnone : (settle g stack).1 = none
    · exact (hkept (by rw [hnone]; rfl)).imp_right .inl
    · exact .inr (.inr hnone)
  have hsettle := reduces_settle g stack hleft
  unfold push
  split
  · rename_i below hs
    simpa [hs] using hsettle
  · rename_i g' below hs
    have hfst : (settle g stack).1 = some g' := by rw [hs]
    rw [hs] at hsettle
    have hcode : ReducesBy (Permitted drops) (stackCode stack ++ g.code)
        (stackCode (g' :: below)) := by
      simpa using hsettle
    split
    · rename_i hidle
      have hg' : drops ∨ isChange g' = false := by
        rw [isChange_settle hfst]
        exact hkept (by rw [hfst]; exact hidle)
      have h := (reduces_idle hidle hg').context (stackCode below) []
      exact hcode.trans (by simpa using h)
    · split
      · exact hcode.trans (reduces_collapse _ (hcode.reduces.wellShaped hw))
      · exact hcode

theorem eq_of_accessed? {op : UInt8} {i : Instr} {v : UInt32} (h : accessed? op i = some v) :
    i = ⟨op, .localVar v⟩ := by
  obtain ⟨op', imm⟩ := i
  cases imm <;> simp_all [accessed?]

theorem eq_of_constant? {i : Instr} {k : Int32} (h : constant? i = some k) :
    i = ⟨Op.i32Const, .i32 k⟩ := by
  obtain ⟨op', imm⟩ := i
  cases imm <;> simp_all [constant?]

theorem eq_of_memoryOf? {op : UInt8} {i : Instr} {arg : MemArg} (h : memoryOf? op i = some arg) :
    i = ⟨op, .memory arg⟩ := by
  obtain ⟨op', imm⟩ := i
  cases imm <;> simp_all [memoryOf?]

theorem eq_of_signed? {i : Instr} {k d : Int32} (h : signed? i k = some d) (hw : i.WellShaped) :
    ∃ op, i = ⟨op, .none⟩ ∧ Moves op k d := by
  obtain ⟨op, imm⟩ := i
  unfold signed? at h
  split at h
  · rename_i hop
    obtain rfl : op = Op.i32Add := hop
    obtain rfl := Instr.imm_of_bare rfl hw
    exact ⟨_, rfl, Option.some.inj h ▸ .add k⟩
  · rename_i hop
    obtain rfl : op = Op.i32Sub := hop
    obtain rfl := Instr.imm_of_bare rfl hw
    exact ⟨_, rfl, Option.some.inj h ▸ .sub k⟩
  · cases h

/-- A group that may be read at an instruction, with the number of the instructions after it that
the group takes. -/
inductive ReadAs : Instr → List Instr → Group × Nat → Prop
  | raw (i : Instr) (rest : List Instr) : ReadAs i rest (.raw i, 0)
  | move (v : UInt32) {i : Instr} {k d : Int32} (h : signed? i k = some d) (rest : List Instr) :
      ReadAs ⟨Op.localGet, .localVar v⟩
        (⟨Op.i32Const, .i32 k⟩ :: i :: ⟨Op.localSet, .localVar v⟩ :: rest) (.move v d, 3)
  | change (v : UInt32) (arg : MemArg) {i : Instr} {k d : Int32} (h : signed? i k = some d)
      (rest : List Instr) :
      ReadAs ⟨Op.localGet, .localVar v⟩
        (⟨Op.localGet, .localVar v⟩ :: ⟨Op.i32Load, .memory arg⟩ :: ⟨Op.i32Const, .i32 k⟩ :: i ::
          ⟨Op.i32Store, .memory arg⟩ :: rest) (.change v arg d, 5)

theorem readAs_move {i₀ i₁ i₂ i₃ : Instr} {g : Group} (h : move? i₀ i₁ i₂ i₃ = some g)
    (rest : List Instr) : ReadAs i₀ (i₁ :: i₂ :: i₃ :: rest) (g, 3) := by
  simp only [move?, Option.bind_eq_bind, Option.bind_eq_some_iff] at h
  obtain ⟨v, h₀, k, h₁, d, h₂, w, h₃, h⟩ := h
  split at h
  · rename_i hvw
    subst hvw
    obtain rfl := Option.some.inj h
    rw [eq_of_accessed? h₀, eq_of_constant? h₁, eq_of_accessed? h₃]
    exact .move v h₂ rest
  · cases h

theorem readAs_change {i₀ i₁ i₂ i₃ i₄ i₅ : Instr} {g : Group}
    (h : change? i₀ i₁ i₂ i₃ i₄ i₅ = some g) (rest : List Instr) :
    ReadAs i₀ (i₁ :: i₂ :: i₃ :: i₄ :: i₅ :: rest) (g, 5) := by
  simp only [change?, Option.bind_eq_bind, Option.bind_eq_some_iff] at h
  obtain ⟨v, h₀, w, h₁, arg, h₂, k, h₃, d, h₄, arg', h₅, h⟩ := h
  split at h
  · rename_i hsame
    obtain ⟨rfl, rfl⟩ := hsame
    obtain rfl := Option.some.inj h
    rw [eq_of_accessed? h₀, eq_of_accessed? h₁, eq_of_memoryOf? h₂, eq_of_constant? h₃,
      eq_of_memoryOf? h₅]
    exact .change v arg h₄ rest
  · cases h

theorem readAs_groupAt (i : Instr) (rest : List Instr) : ReadAs i rest (groupAt i rest) := by
  unfold groupAt
  simp only
  split
  · rename_i g hmove
    split at hmove
    · exact readAs_move hmove _
    · cases hmove
  · split
    · rename_i g hchange
      split at hchange
      · exact readAs_change hchange _
      · cases hchange
    · exact .raw i rest

/-- The instructions taken into a group reduce to the group's code. -/
theorem reduces_groupAt (i : Instr) (is : List Instr) (hw : ∀ j ∈ is, j.WellShaped) :
    ReducesBy (Permitted drops) (i :: is.take (groupAt i is).2) (groupAt i is).1.code := by
  have hread := readAs_groupAt i is
  generalize groupAt i is = r at hread ⊢
  cases hread with
  | raw => exact .refl
  | @move v j k d hsigned rest =>
    obtain ⟨op, rfl, hmoves⟩ := eq_of_signed? hsigned (hw j (by simp))
    exact (Rule.move v hmoves).reduces (List.cons_ne_nil _ _)
  | @change v arg j k d hsigned rest =>
    obtain ⟨op, rfl, hmoves⟩ := eq_of_signed? hsigned (hw j (by simp))
    exact (Rule.change v arg hmoves).reduces (List.cons_ne_nil _ _)

theorem reduces_groupFrom (skip : Nat) (code : List Instr) (stack : List Group)
    (hw : ∀ i ∈ stackCode stack ++ code.drop skip, i.WellShaped)
    (hg : drops ∨ dropsFrom skip code stack = false) :
    ReducesBy (Permitted drops) (stackCode stack ++ code.drop skip)
      (stackCode (groupFrom skip code stack)) := by
  induction code generalizing skip stack with
  | nil => simpa [groupFrom] using ReflTransGen.refl
  | cons i is ih =>
    cases skip with
    | succ skip => exact ih skip stack hw hg
    | zero =>
      have hboth : (drops ∨ dropsChange stack (groupAt i is).1 = false) ∧
          (drops ∨ dropsFrom (groupAt i is).2 is (push stack (groupAt i is).1) = false) := by
        rw [← or_and_left, ← Bool.or_eq_false_iff]
        exact hg
      have hgroup : ReducesBy (Permitted drops) (stackCode stack ++ i :: is)
          (stackCode stack ++ (groupAt i is).1.code ++ is.drop (groupAt i is).2) := by
        have h : ReducesBy (Permitted drops) _ _ :=
          reduces_groupAt i is fun j hj => hw j (by simp [hj])
        simpa using h.context (stackCode stack) (is.drop (groupAt i is).2)
      have hpush : ReducesBy (Permitted drops)
          (stackCode stack ++ (groupAt i is).1.code ++ is.drop (groupAt i is).2)
          (stackCode (push stack (groupAt i is).1) ++ is.drop (groupAt i is).2) := by
        have h := (reduces_push stack (groupAt i is).1 (fun j hj =>
          hgroup.reduces.wellShaped hw j (List.mem_append_left _ hj)) hboth.1).context []
            (is.drop (groupAt i is).2)
        simpa using h
      have hcode : ReducesBy (Permitted drops) _ _ := hgroup.trans hpush
      exact hcode.trans (ih _ _ (hcode.reduces.wellShaped hw) hboth.2)

end Reductions

/-- Condensing a body is a sequence of replacements. -/
theorem reduces_condense {code : List Instr} (hw : ∀ i ∈ code, i.WellShaped) :
    Reduces code (condense code) :=
  (reduces_groupFrom 0 code [] hw (.inl trivial)).reduces

/-- If condensing drops no change, then none of the replacements does. -/
theorem reduces_condense_of_not_drops {code : List Instr} (hw : ∀ i ∈ code, i.WellShaped)
    (hdrops : dropsFrom 0 code [] = false) :
    ReducesBy (Permitted False) code (condense code) :=
  reduces_groupFrom 0 code [] hw (.inr hdrops)

end TapeWasm.Peephole
