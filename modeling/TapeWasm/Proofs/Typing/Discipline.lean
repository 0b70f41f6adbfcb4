import TapeWasm.Proofs.Typing.Instructions
import TapeWasm.Proofs.Typing.Nesting

/-!
The discipline of the checker's stacks. The heights of open blocks do not fall inwards and never pass
the number of operands, so that the test for operands of the innermost block, which compares with its
height for equality, is enough.

`Guarded` is the checker with the conditions for each access tested before it. The tests never fail:
the guarded checker gives the checker's own answer on every body.
-/
namespace TapeWasm.Wasm

namespace Checker

/-- The heights of open blocks do not fall towards the innermost one and do not pass the number of
operands. -/
structure Disciplined (c : Checker) : Prop where
  sorted : c.frames.Pairwise fun inner outer => outer.height ≤ inner.height
  bounded : ∀ f ∈ c.frames, f.height ≤ c.operands.length

/-- The operands that were there when the block began. -/
def under (c : Checker) (f : Frame) : List ValueType :=
  c.operands.drop (c.operands.length - f.height)

theorem Stacked.disciplined {c : Checker} (h : c.Stacked) : c.Disciplined := by
  induction h with
  | nil operands => constructor <;> simp
  | @cons top base g fs _ hg ih =>
    constructor
    · refine List.pairwise_cons.mpr ⟨fun f hf => ?_, ih.sorted⟩
      rw [hg]
      exact ih.bounded f hf
    · intro f hf
      simp only [List.length_append]
      rcases List.mem_cons.mp hf with rfl | hf
      · omega
      · have hle : f.height ≤ base.length := ih.bounded f hf
        omega

/-- Under the innermost block lie the operands of the blocks around it. -/
theorem under_innermost {g : Frame} {fs : List Frame} {base : List ValueType}
    (hg : g.height = base.length) (top : List ValueType) :
    under ⟨top ++ base, g :: fs⟩ g = base := by
  simp [under, hg]

theorem under_suffix_under {c : Checker} {f g : Frame} (h : f.height ≤ g.height) :
    c.under f <:+ c.under g := by
  unfold under
  obtain ⟨k, hk⟩ : ∃ k, c.operands.length - f.height = c.operands.length - g.height + k :=
    ⟨g.height - f.height - (g.height - c.operands.length), by omega⟩
  rw [hk, ← List.drop_drop]
  exact List.drop_suffix _ _

end Checker

/-- What stops a guarded check: a fault of the code, no block being open, the innermost block having
lost operands that lie under it, or an immediate of another kind than the instruction takes. -/
inductive Breach where
  | fault (fault : TypingFault)
  | noBlock
  | lostOperands
  | wrongImmediate
  deriving DecidableEq, Repr

namespace Guarded

/-- The answer of a check that runs into no guard. -/
def lift (x : Except TypingFault α) : Except Breach α :=
  x.mapError .fault

/-- The innermost block, where the operands under it are all there. -/
def innermost (c : Checker) : Except Breach Frame :=
  match c.frames with
  | [] => .error .noBlock
  -- With fewer operands, `pop` would not find equality and go on to the operands of other blocks.
  | f :: _ => if f.height ≤ c.operands.length then .ok f else .error .lostOperands

def pop (c : Checker) : Except Breach (ValueType × Checker) := do
  let _ ← innermost c
  lift c.pop

def popType (c : Checker) (want : ValueType) : Except Breach (ValueType × Checker) := do
  let (got, c') ← pop c
  if got ≠ want ∧ got ≠ .unknown ∧ want ≠ .unknown then .error (.fault (.mismatch want got))
  else return (got, c')

def expect (c : Checker) (want : ValueType) : Except Breach Checker := do
  let (_, c') ← popType c want
  return c'

def expectTop : List ValueType → Checker → Except Breach Checker
  | [], c => .ok c
  | t :: ts, c => do
    let c' ← expect c t
    expectTop ts c'

def expectAll (c : Checker) (ts : List ValueType) : Except Breach Checker :=
  expectTop ts.reverse c

def leave (c : Checker) : Except Breach (Frame × Checker) := do
  let f ← innermost c
  let c' ← expectAll c f.type.results
  if c'.operands.length = f.height then return (f, { c' with frames := c.frames.tail })
  else .error (.fault (.leftover (c'.operands.length - f.height)))

def abandon (c : Checker) : Except Breach Checker := do
  let _ ← innermost c
  return c.abandon

def label (c : Checker) (depth : UInt32) : Except Breach (List ValueType) := do
  let _ ← innermost c
  lift (c.label depth)

def tableLabels (c : Checker) (arity : Nat) : List UInt32 → Except Breach Unit
  | [] => .ok ()
  | l :: ls => do
    let types ← label c l
    if types.length = arity then tableLabels c arity ls
    else .error (.fault (.tableArity l types.length arity))

def blockStart (s : Scope) (kind : FrameKind) (imm : Immediate) (c : Checker) :
    Except Breach Checker := do
  let .block t := imm | .error .wrongImmediate
  let type ← lift (s.module.blockType t)
  let c ← if kind = .ifThen then expect c .i32 else .ok c
  let c ← expectAll c type.params
  return c.enter kind type

def branch (imm : Immediate) (c : Checker) : Except Breach Checker := do
  let .branch l := imm | .error .wrongImmediate
  let types ← label c l
  let c ← expectAll c types
  abandon c

def branchIf (imm : Immediate) (c : Checker) : Except Breach Checker := do
  let .branch l := imm | .error .wrongImmediate
  let c ← expect c .i32
  let types ← label c l
  let c ← expectAll c types
  return c.pushAll types

def branchTable (imm : Immediate) (c : Checker) : Except Breach Checker := do
  let .table ls d := imm | .error .wrongImmediate
  let c ← expect c .i32
  let types ← label c d
  tableLabels c types.length ls
  let c ← expectAll c types
  abandon c

/-- Takes the parameters of a function type and leaves its results. -/
def apply (type : FuncType) (c : Checker) : Except Breach Checker := do
  let c ← expectAll c type.params
  return c.pushAll type.results

def call (s : Scope) (imm : Immediate) (c : Checker) : Except Breach Checker := do
  let .call f := imm | .error .wrongImmediate
  match s.module.funcType? f with
  | none => .error (.fault (.unknownCallee f))
  | some type => apply type c

def localStep (s : Scope) (op : UInt8) (imm : Immediate) (c : Checker) :
    Except Breach Checker := do
  let .localVar i := imm | .error .wrongImmediate
  match s.locals[i.toNat]? with
  | none => .error (.fault (.localRange i s.locals.length))
  | some t =>
    match op with
    | Op.localGet => .ok (c.push t)
    | Op.localSet => expect c t
    | _ => do
      let c ← expect c t
      return c.push t

def globalStep (s : Scope) (op : UInt8) (imm : Immediate) (c : Checker) :
    Except Breach Checker := do
  let .globalVar i := imm | .error .wrongImmediate
  match s.module.globalType? i with
  | none => .error (.fault (.globalRange i))
  | some g =>
    match op with
    | Op.globalGet => .ok (c.push g.value)
    | _ => if g.isMutable then expect c g.value else .error (.fault (.immutable i))

def memorySizeStep (s : Scope) (op : UInt8) (imm : Immediate) (c : Checker) :
    Except Breach Checker := do
  let .memoryIndex n := imm | .error .wrongImmediate
  lift (s.needMemory n)
  let c ← if op = Op.memoryGrow then expect c .i32 else .ok c
  return c.push .i32

def memoryStep (s : Scope) (acc : Access) (imm : Immediate) (c : Checker) :
    Except Breach Checker := do
  let .memory arg := imm | .error .wrongImmediate
  lift (s.needMemory 0)
  if acc.naturalAlign < arg.align then .error (.fault (.alignment arg.align acc.naturalAlign))
  else if acc.isStore then
    let c ← expect c acc.value
    expect c .i32
  else
    let c ← expect c .i32
    return c.push acc.value

/-- Checks one instruction, chosen by its opcode alone. -/
def step (s : Scope) (i : Instr) (c : Checker) : Except Breach Checker :=
  match i.op with
  | Op.unreachable => abandon c
  | Op.nop => .ok c
  | Op.block => blockStart s .block i.imm c
  | Op.loop => blockStart s .loop i.imm c
  | Op.ifThen => blockStart s .ifThen i.imm c
  | Op.otherwise => do
    let (f, c) ← leave c
    if f.kind = .ifThen then return c.enter .otherwise f.type else .error (.fault .strayElse)
  | Op.stop => do
    let (f, c) ← leave c
    if f.kind = .ifThen ∧ f.type.params ≠ f.type.results then .error (.fault .oneArmed)
    else return c.pushAll f.type.results
  | Op.br => branch i.imm c
  | Op.brIf => branchIf i.imm c
  | Op.brTable => branchTable i.imm c
  | Op.ret => do
    let c ← expectAll c s.results
    abandon c
  | Op.call => call s i.imm c
  | Op.drop => do
    let (_, c) ← pop c
    return c
  | Op.select => do
    let c ← expect c .i32
    let (t1, c) ← pop c
    let (t2, c) ← popType c t1
    return c.push (if t1 = .unknown then t2 else t1)
  | Op.localGet | Op.localSet | Op.localTee => localStep s i.op i.imm c
  | Op.globalGet | Op.globalSet => globalStep s i.op i.imm c
  | Op.memorySize | Op.memoryGrow => memorySizeStep s i.op i.imm c
  | Op.i32Const => .ok (c.push .i32)
  | Op.i64Const => .ok (c.push .i64)
  | op =>
    match access? op with
    | some acc => memoryStep s acc i.imm c
    | none =>
      match numericType? op with
      | some type => apply type c
      | none => .error (.fault (.unsupported op))

def stepsFrom (s : Scope) : List Instr → Nat → Checker → Except Breach Checker
  | [], _, c => .ok c
  | i :: is, n, c =>
    match c.frames with
    | [] => .error (.fault (.afterEnd n i))
    | _ :: _ =>
      match step s i c with
      | .ok c' => stepsFrom s is (n + 1) c'
      | .error (.fault f) => .error (.fault (.atInstr n i f))
      | .error b => .error b

def checkCode (s : Scope) (code : List Instr) : Except Breach Unit := do
  let c ← stepsFrom s code 0 (Checker.enter {} .block { results := s.results })
  match c.frames with
  | [] => return
  | fs => .error (.fault (.unclosed fs.length))

/-- Checks a body with a guard before every access. -/
def checkBody (m : Module) (type : FuncType) (b : Body) : Except Breach Unit :=
  match Instr.decodeAll b.code with
  | .error f => .error (.fault (.code f))
  | .ok code => checkCode ⟨m, type.params ++ b.localTypes, type.results⟩ code

/-! The tests pass in states where the operands of each block lie on those of the blocks around it. -/

theorem lift_bind {x : Except TypingFault α} {f : α → Except TypingFault β}
    {f' : α → Except Breach β} (h : ∀ a, x = .ok a → f' a = lift (f a)) :
    (lift x >>= f') = lift (x >>= f) := by
  cases x with
  | error e => rfl
  | ok a => exact h a rfl

theorem step_memory {s : Scope} {c : Checker} {op : UInt8} {acc : Access} (h : access? op = some acc)
    (imm : Immediate) : step s ⟨op, imm⟩ c = memoryStep s acc imm c := by
  unfold access? at h
  split at h <;> cases h <;> rfl

theorem step_numeric {s : Scope} {c : Checker} {op : UInt8} {type : FuncType}
    (h : numericType? op = some type) : step s ⟨op, .none⟩ c = apply type c := by
  have hplain : access? op = none := by
    unfold access?
    split <;> first | rfl | cases h
  unfold step
  split
  case h_24 => simp only [hplain, h]
  -- No opcode that has a case of its own is a numeric one.
  all_goals
    rename_i hop
    cases hop
    cases h

section Stacks

variable {s : Scope} {base : List ValueType} {g : Frame} {fs : List Frame} {c : Checker}
  (hg : g.height = base.length) (hc : Checker.On base g fs c)

include hg hc

theorem innermost_eq : innermost c = .ok g := by
  obtain ⟨top, rfl⟩ := hc
  simp [innermost, hg]

theorem pop_eq : pop c = lift c.pop := by
  unfold pop
  rw [innermost_eq hg hc]
  rfl

theorem popType_eq (want : ValueType) : popType c want = lift (c.popType want) := by
  unfold popType Checker.popType
  rw [pop_eq hg hc]
  apply lift_bind
  rintro ⟨got, c'⟩ -
  simp only
  split <;> rfl

theorem expect_eq (want : ValueType) : expect c want = lift (c.expect want) := by
  unfold expect Checker.expect
  rw [popType_eq hg hc]
  exact lift_bind fun _ _ => rfl

omit hc in
theorem expectTop_eq {ts : List ValueType} (hc : Checker.On base g fs c) :
    expectTop ts c = lift (Checker.expectTop ts c) := by
  induction ts generalizing c with
  | nil => rfl
  | cons t ts ih =>
    unfold expectTop Checker.expectTop
    rw [expect_eq hg hc]
    exact lift_bind fun c' hc' => ih (hc.expect hg hc')

theorem expectAll_eq (ts : List ValueType) : expectAll c ts = lift (c.expectAll ts) :=
  expectTop_eq hg hc

/-- After taking an operand the block is still the innermost one. -/
theorem expect_bind {want : ValueType} {k : Checker → Except TypingFault α}
    {k' : Checker → Except Breach α} (h : ∀ c', Checker.On base g fs c' → k' c' = lift (k c')) :
    (expect c want >>= k') = lift (c.expect want >>= k) := by
  rw [expect_eq hg hc]
  exact lift_bind fun c' hc' => h c' (hc.expect hg hc')

theorem expectAll_bind {ts : List ValueType} {k : Checker → Except TypingFault α}
    {k' : Checker → Except Breach α} (h : ∀ c', Checker.On base g fs c' → k' c' = lift (k c')) :
    (expectAll c ts >>= k') = lift (c.expectAll ts >>= k) := by
  rw [expectAll_eq hg hc]
  exact lift_bind fun c' hc' => h c' (hc.expectAll hg hc')

theorem leave_bind {k : Frame × Checker → Except TypingFault Checker}
    {k' : Frame × Checker → Except Breach Checker} (h : ∀ f c', k' (f, c') = lift (k (f, c'))) :
    (leave c >>= k') = lift (c.leave >>= k) := by
  have hleave : leave c = lift c.leave := by
    unfold leave Checker.leave
    rw [innermost_eq hg hc, hc.frames]
    change (expectAll c g.type.results >>= _) = _
    apply expectAll_bind hg hc
    intro c' _
    split <;> rfl
  rw [hleave]
  exact lift_bind fun p _ => h p.1 p.2

theorem label_bind {l : UInt32} {k : List ValueType → Except TypingFault α}
    {k' : List ValueType → Except Breach α} (h : ∀ types, k' types = lift (k types)) :
    (label c l >>= k') = lift (c.label l >>= k) := by
  have hlabel : label c l = lift (c.label l) := by
    unfold label
    rw [innermost_eq hg hc]
    rfl
  rw [hlabel]
  exact lift_bind fun types _ => h types

theorem abandon_eq : abandon c = .ok c.abandon := by
  unfold abandon
  rw [innermost_eq hg hc]
  rfl

theorem tableLabels_eq (arity : Nat) (ls : List UInt32) :
    tableLabels c arity ls = lift (Scope.tableLabels c arity ls) := by
  induction ls with
  | nil => rfl
  | cons l ls ih =>
    unfold tableLabels Scope.tableLabels
    apply label_bind hg hc
    intro types
    split
    · exact ih
    · rfl

/-- Taking operands and leaving others. -/
theorem apply_eq (type : FuncType) :
    apply type c = lift (do
      let c ← c.expectAll type.params
      return c.pushAll type.results) :=
  expectAll_bind hg hc fun _ _ => rfl

/-- Taking operands along in a jump. -/
theorem expectAll_abandon_eq (ts : List ValueType) :
    (do let c ← expectAll c ts; abandon c) = lift (do
      let c ← c.expectAll ts
      return c.abandon) := by
  apply expectAll_bind hg hc
  intro c' hc'
  rw [abandon_eq hg hc']
  rfl

theorem blockStart_eq (kind : FrameKind) (t : Int32) :
    blockStart s kind (.block t) c = lift (s.blockStart kind t c) := by
  unfold blockStart Scope.blockStart
  apply lift_bind
  intro type _
  simp only
  split
  · apply expect_bind hg hc
    intro c' hc'
    exact expectAll_bind hg hc' fun _ _ => rfl
  · exact expectAll_bind hg hc fun _ _ => rfl

theorem branchIf_eq (l : UInt32) :
    branchIf (.branch l) c = lift (s.step ⟨Op.brIf, .branch l⟩ c) := by
  apply expect_bind hg hc
  intro c' hc'
  apply label_bind hg hc'
  intro types
  exact apply_eq hg hc' ⟨types, types⟩

theorem branchTable_eq (ls : List UInt32) (d : UInt32) :
    branchTable (.table ls d) c = lift (s.step ⟨Op.brTable, .table ls d⟩ c) := by
  apply expect_bind hg hc
  intro c' hc'
  apply label_bind hg hc'
  intro types
  rw [tableLabels_eq hg hc']
  exact lift_bind fun _ _ => expectAll_abandon_eq hg hc' types

theorem select_eq : step s ⟨Op.select, .none⟩ c = lift (s.step ⟨Op.select, .none⟩ c) := by
  apply expect_bind hg hc
  intro c₁ hc₁
  rw [pop_eq hg hc₁]
  apply lift_bind
  rintro ⟨t₁, c₂⟩ hc₂
  simp only
  rw [popType_eq hg (hc₁.pop hg hc₂)]
  exact lift_bind fun _ _ => rfl

theorem localStep_eq {op : UInt8} (hop : op ∈ [Op.localGet, Op.localSet, Op.localTee])
    (n : UInt32) : localStep s op (.localVar n) c = lift (s.localStep op n c) := by
  unfold localStep Scope.localStep
  simp only
  cases s.locals[n.toNat]? with
  | none => rfl
  | some t =>
    simp only [List.mem_cons, List.not_mem_nil, or_false] at hop
    rcases hop with rfl | rfl | rfl
    · rfl
    · exact expect_eq hg hc t
    · exact expect_bind hg hc fun _ _ => rfl

theorem globalStep_eq {op : UInt8} (hop : op ∈ [Op.globalGet, Op.globalSet]) (n : UInt32) :
    globalStep s op (.globalVar n) c = lift (s.globalStep op n c) := by
  unfold globalStep Scope.globalStep
  simp only
  cases s.module.globalType? n with
  | none => rfl
  | some v =>
    simp only [List.mem_cons, List.not_mem_nil, or_false] at hop
    rcases hop with rfl | rfl
    · rfl
    · change (if v.isMutable then expect c v.value else _) =
        lift (if v.isMutable then c.expect v.value else _)
      split
      · exact expect_eq hg hc v.value
      · rfl

theorem memorySizeStep_eq {op : UInt8} (hop : op ∈ [Op.memorySize, Op.memoryGrow]) (n : UInt32) :
    memorySizeStep s op (.memoryIndex n) c = lift (s.step ⟨op, .memoryIndex n⟩ c) := by
  simp only [List.mem_cons, List.not_mem_nil, or_false] at hop
  rcases hop with rfl | rfl
  · exact lift_bind (x := s.needMemory n) fun _ _ => rfl
  · exact lift_bind (x := s.needMemory n) fun _ _ => expect_bind hg hc fun _ _ => rfl

theorem memoryStep_eq (acc : Access) (arg : MemArg) :
    memoryStep s acc (.memory arg) c = lift (s.memoryStep arg acc c) := by
  unfold memoryStep Scope.memoryStep
  apply lift_bind
  intro _ _
  split
  · rfl
  · split
    · exact expect_bind hg hc fun c' hc' => expect_eq hg hc' .i32
    · exact expect_bind hg hc fun _ _ => rfl

theorem call_eq (f : UInt32) : call s (.call f) c = lift (s.step ⟨Op.call, .call f⟩ c) := by
  conv => rhs; arg 1; whnf
  unfold call
  simp only
  cases s.module.funcType? f with
  | none => rfl
  | some type => exact apply_eq hg hc type

/-- Instructions whose opcode alone says what they do. -/
theorem step_bare_eq {op : UInt8} (hop : Shape.bare.Takes op) :
    step s ⟨op, .none⟩ c = lift (s.step ⟨op, .none⟩ c) := by
  rcases hop with hop | ⟨type, htype⟩
  · simp only [List.mem_cons, List.not_mem_nil, or_false] at hop
    rcases hop with rfl | rfl | rfl | rfl | rfl | rfl | rfl
    · exact abandon_eq hg hc
    · rfl
    · apply leave_bind hg hc
      intro f c'
      simp only
      split <;> rfl
    · apply leave_bind hg hc
      intro f c'
      simp only
      split <;> rfl
    · exact expectAll_abandon_eq hg hc s.results
    · change (pop c >>= _) = lift (c.pop >>= _)
      rw [pop_eq hg hc]
      exact lift_bind fun _ _ => rfl
    · exact select_eq hg hc
  · rw [step_numeric htype, Scope.step_numeric htype]
    exact apply_eq hg hc type

/-- A guarded instruction of the right shape does what the instruction does. -/
theorem step_eq {i : Instr} (hi : i.WellShaped) : step s i c = lift (s.step i c) := by
  obtain ⟨op, imm⟩ := i
  have htakes := Shape.takes_of_shape? hi
  cases imm with
  | none => exact step_bare_eq hg hc htakes
  | block t =>
    simp only [Immediate.shape, Shape.Takes, List.mem_cons, List.not_mem_nil, or_false] at htakes
    rcases htakes with rfl | rfl | rfl <;> exact blockStart_eq hg hc _ t
  | branch l =>
    simp only [Immediate.shape, Shape.Takes, List.mem_cons, List.not_mem_nil, or_false] at htakes
    rcases htakes with rfl | rfl
    · exact label_bind hg hc fun types => expectAll_abandon_eq hg hc types
    · exact branchIf_eq hg hc l
  | table ls d =>
    obtain rfl : op = Op.brTable := htakes
    exact branchTable_eq hg hc ls d
  | call f =>
    obtain rfl : op = Op.call := htakes
    exact call_eq hg hc f
  | localVar n =>
    have hlocal := localStep_eq (s := s) hg hc htakes n
    simp only [Immediate.shape, Shape.Takes, List.mem_cons, List.not_mem_nil, or_false] at htakes
    rcases htakes with rfl | rfl | rfl <;> exact hlocal
  | globalVar n =>
    have hglobal := globalStep_eq (s := s) hg hc htakes n
    simp only [Immediate.shape, Shape.Takes, List.mem_cons, List.not_mem_nil, or_false] at htakes
    rcases htakes with rfl | rfl <;> exact hglobal
  | memory arg =>
    obtain ⟨acc, hacc⟩ := htakes
    rw [step_memory hacc, Scope.step_memory hacc]
    exact memoryStep_eq hg hc acc arg
  | memoryIndex n =>
    have hmemory := memorySizeStep_eq (s := s) hg hc htakes n
    simp only [Immediate.shape, Shape.Takes, List.mem_cons, List.not_mem_nil, or_false] at htakes
    rcases htakes with rfl | rfl <;> exact hmemory
  | i32 k =>
    obtain rfl : op = Op.i32Const := htakes
    rfl
  | i64 k =>
    obtain rfl : op = Op.i64Const := htakes
    rfl

end Stacks

theorem stepsFrom_eq {s : Scope} {code : List Instr} {n : Nat} {c : Checker}
    (hw : ∀ i ∈ code, i.WellShaped) (hc : c.Stacked) :
    stepsFrom s code n c = lift (s.stepsFrom code n c) := by
  -- What carries the induction is that the blocks stay stacked; a step that fails ends both runs.
  induction code generalizing n c with
  | nil => rfl
  | cons i is ih =>
    rw [List.forall_mem_cons] at hw
    unfold stepsFrom Scope.stepsFrom
    cases hc with
    | nil operands => rfl
    | @cons top base g fs hbase hg =>
      simp only [step_eq hg ⟨top, rfl⟩ hw.1]
      cases hi : s.step i ⟨top ++ base, g :: fs⟩ with
      | error f => rfl
      | ok d =>
        have hd : d.Stacked :=
          Scope.step_stacked hw.1 (List.cons_ne_nil g fs) (.cons top hbase hg) hi
        exact ih hw.2 hd

theorem checkCode_eq {s : Scope} {code : List Instr} (hw : ∀ i ∈ code, i.WellShaped) :
    checkCode s code = lift (s.checkCode code) := by
  unfold checkCode Scope.checkCode
  rw [stepsFrom_eq hw (.enter _)]
  apply lift_bind
  rintro ⟨operands, frames⟩ -
  cases frames <;> rfl

end Guarded

/-- No instruction touches the operands under an open block. -/
theorem Scope.under_suffix_of_step {s : Scope} {i : Instr} {c d : Checker} (hi : i.WellShaped)
    (hc : c.Stacked) (h : s.step i c = .ok d) {f : Frame} (hf : f ∈ c.frames) :
    c.under f <:+ d.operands := by
  have hsorted := hc.disciplined.sorted
  cases hc with
  | nil operands => cases hf
  | @cons top base g fs hbase hg =>
    have hle : f.height ≤ g.height := by
      rcases List.mem_cons.mp hf with rfl | hf
      · exact Nat.le_refl _
      · exact (List.pairwise_cons.mp hsorted).1 f hf
    apply (Checker.under_suffix_under hle).trans
    rw [Checker.under_innermost hg]
    cases step_shape hi hg ⟨top, rfl⟩ h with
    | opens _ own top =>
      rw [← List.append_assoc]
      exact List.suffix_append _ _
    | closes => exact List.suffix_append _ _
    | stays _ _ top => exact List.suffix_append _ _

/-- The check of a body keeps its stacks in order, whatever the bytes of the body are. With a guard
before every access it gives the same answer, acceptance or a fault, and no guard ever fails. After
every accepted part of the code the heights of the open blocks are sorted and within the operands, and
the next instruction leaves the operands under an open block as they are. -/
theorem Module.checkBody_keeps_discipline (m : Module) (type : FuncType) (b : Body) :
    let s : Scope := ⟨m, type.params ++ b.localTypes, type.results⟩
    Guarded.checkBody m type b = Guarded.lift (m.checkBody type b) ∧
    ∀ (before after : List Instr) (c : Checker), Instr.decodeAll b.code = .ok (before ++ after) →
      s.Checks before (Checker.enter {} .block { results := s.results }) c →
      c.Disciplined ∧
      ∀ i ∈ after.head?, ∀ d, s.step i c = .ok d → ∀ f ∈ c.frames, c.under f <:+ d.operands := by
  intro s
  constructor
  · unfold Guarded.checkBody checkBody
    cases hcode : Instr.decodeAll b.code with
    | error f => rfl
    | ok code =>
      exact Guarded.checkCode_eq fun i hi => ((Instr.decodeAll_ok hcode).1 i hi).wellShaped
  · intro before after c hcode hchecks
    have hw : ∀ i ∈ before ++ after, i.WellShaped := fun i hi =>
      ((Instr.decodeAll_ok hcode).1 i hi).wellShaped
    rw [List.forall_mem_append] at hw
    have hstacked := hchecks.stacked hw.1 (.enter _)
    refine ⟨hstacked.disciplined, fun i hi d hd f hf => ?_⟩
    have hi' : i.WellShaped := hw.2 i (List.mem_of_mem_head? hi)
    exact Scope.under_suffix_of_step hi' hstacked hd hf

/-- A block inside a function drops its own word and then wants to drop the word that lies under
it. -/
theorem Module.checkBody_keeps_discipline_inner :
    let b : Body := { code := [65, 7, 2, 64, 65, 1, 26, 26, 11, 26, 11] }
    let s : Scope := ⟨{}, [], []⟩
    let before : List Instr :=
      [⟨Op.i32Const, .i32 7⟩, ⟨Op.block, .block (-64)⟩, ⟨Op.i32Const, .i32 1⟩]
    let c : Checker := ⟨[.i32, .i32], [⟨.block, {}, 1, false⟩, ⟨.block, {}, 0, false⟩]⟩
    Guarded.checkBody {} {} b = .error (.fault (.atInstr 4 ⟨Op.drop, .none⟩ .underflow)) ∧
      s.Checks before (Checker.enter {} .block {}) c ∧ c.Disciplined ∧
      s.step ⟨Op.drop, .none⟩ c = .ok ⟨[.i32], c.frames⟩ ∧
      c.under ⟨.block, {}, 1, false⟩ = [.i32] ∧ c.under ⟨.block, {}, 1, false⟩ <:+ [.i32] := by
  intro b s before c
  have hchecks : s.Checks before (Checker.enter {} .block {}) c :=
    (Scope.stepsFrom_eq_ok_iff (n := 0)).mp rfl
  have hstep : s.step ⟨Op.drop, .none⟩ c = .ok ⟨[.i32], c.frames⟩ := rfl
  obtain ⟨hanswer, hpoints⟩ := checkBody_keeps_discipline {} {} b
  have hcode : Instr.decodeAll b.code = .ok (before ++
      [⟨Op.drop, .none⟩, ⟨Op.drop, .none⟩, ⟨Op.stop, .none⟩, ⟨Op.drop, .none⟩,
        ⟨Op.stop, .none⟩]) := rfl
  obtain ⟨hdisciplined, hunder⟩ := hpoints before _ c hcode hchecks
  exact ⟨hanswer, hchecks, hdisciplined, hstep, rfl,
    hunder _ rfl _ hstep _ (List.mem_cons_self ..)⟩

end TapeWasm.Wasm
