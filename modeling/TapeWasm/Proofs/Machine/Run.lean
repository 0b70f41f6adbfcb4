import Mathlib.Logic.Relation
import TapeWasm.Wasm.Machine

/-!
Runs of the machine. Steps are deterministic, so a run has at most one end, and machines on one run
have the same end. The second part says what one step of each instruction does.
-/
namespace TapeWasm.Wasm.Machine

def Outcome.Ended : Outcome → Prop
  | .unfinished _ => False
  | _ => True

def Next (host : List HostCall) (m m' : Machine) : Prop :=
  step host m = .next m'

/-- Some number of steps, possibly none, leads from one machine to another. -/
abbrev Reaches (host : List HostCall) : Machine → Machine → Prop :=
  Relation.ReflTransGen (Next host)

def Traps (host : List HostCall) (m : Machine) : Prop :=
  ∃ n t m', run host n m = .trapped t m'

/-- A run comes to where the rules have nothing to say. -/
def Sticks (host : List HostCall) (m : Machine) : Prop :=
  ∃ n m', run host n m = .stuck m'

def Finishes (host : List HostCall) (m r : Machine) : Prop :=
  ∃ n, run host n m = .finished r

variable {host : List HostCall}

theorem run_succ_of_next {m m' : Machine} (h : Next host m m') (n : Nat) :
    run host (n + 1) m = run host n m' := by
  rw [run, show step host m = _ from h]

/-- An end that a run has come to stays its end. -/
theorem run_add_of_ended {n : Nat} {m : Machine} {o : Outcome} (ho : o.Ended)
    (h : run host n m = o) (k : Nat) : run host (n + k) m = o := by
  induction n generalizing m with
  | zero =>
    subst h
    exact absurd ho not_false
  | succ n ih =>
    rw [Nat.add_right_comm]
    cases hs : step host m with
    | next m' =>
      rw [run_succ_of_next hs] at h ⊢
      exact ih h
    | finished m' | trapped t m' | stuck m' =>
      rw [run, hs] at h ⊢
      exact h

theorem run_ended_unique {n k : Nat} {m : Machine} {o o' : Outcome} (ho : o.Ended)
    (ho' : o'.Ended) (h : run host n m = o) (h' : run host k m = o') : o = o' := by
  rw [← run_add_of_ended ho h k, Nat.add_comm, run_add_of_ended ho' h' n]

theorem Reaches.run_eq {m m' : Machine} (h : Reaches host m m') :
    ∃ k, ∀ n, run host (n + k) m = run host n m' := by
  induction h with
  | refl => exact ⟨0, fun n => rfl⟩
  | tail _ hnext ih =>
    obtain ⟨k, ih⟩ := ih
    refine ⟨k + 1, fun n => ?_⟩
    rw [← Nat.add_assoc, Nat.add_right_comm, ih, run_succ_of_next hnext]

/-- Machines on one run have the same end. -/
theorem Reaches.ends_iff {m m' : Machine} (h : Reaches host m m') {o : Outcome} (ho : o.Ended) :
    (∃ n, run host n m = o) ↔ ∃ n, run host n m' = o := by
  obtain ⟨k, hk⟩ := h.run_eq
  constructor
  · rintro ⟨n, hn⟩
    exact ⟨n, by rw [← hk, run_add_of_ended ho hn]⟩
  · rintro ⟨n, hn⟩
    exact ⟨n + k, by rw [hk, hn]⟩

theorem finishes_iff_of_reaches {m m' r : Machine} (h : Reaches host m m') :
    Finishes host m r ↔ Finishes host m' r :=
  Reaches.ends_iff h (o := .finished r) trivial

theorem Finishes.unique {m r r' : Machine} (h : Finishes host m r) (h' : Finishes host m r') :
    r = r' := by
  obtain ⟨n, hn⟩ := h
  obtain ⟨n', hn'⟩ := h'
  simpa using run_ended_unique (show (Outcome.finished r).Ended from trivial)
    (show (Outcome.finished r').Ended from trivial) hn hn'

/-- A machine after at least one step of a run comes to the run's end sooner. -/
theorem run_lt_of_steps {m m₁ m' : Machine} (hnext : Next host m m₁) (h : Reaches host m₁ m')
    {n : Nat} {o : Outcome} (ho : o.Ended) (hn : run host n m = o) :
    ∃ k < n, run host k m' = o := by
  cases n with
  | zero =>
    subst hn
    exact absurd ho not_false
  | succ n =>
    rw [run_succ_of_next hnext] at hn
    obtain ⟨k, hk⟩ := h.run_eq
    refine ⟨n, Nat.lt_succ_self n, ?_⟩
    rw [← hk, run_add_of_ended ho hn]

/-! One step of each instruction. -/

section Steps

variable {c : List Instr} {labels : List Label} {stack : List Value} {locals : List Value}
  {store : Store}

theorem next_localGet {v : UInt32} {x : Value} (h : locals[v.toNat]? = some x) :
    Next host ⟨⟨Op.localGet, .localVar v⟩ :: c, labels, stack, locals, store⟩
      ⟨c, labels, x :: stack, locals, store⟩ := by
  change getLocal ⟨c, labels, stack, locals, store⟩ v = _
  rw [getLocal, h]

theorem next_localSet {v : UInt32} {x : Value} (h : v.toNat < locals.length) :
    Next host ⟨⟨Op.localSet, .localVar v⟩ :: c, labels, x :: stack, locals, store⟩
      ⟨c, labels, stack, locals.set v.toNat x, store⟩ :=
  if_pos h

theorem next_const {k : Int32} :
    Next host ⟨⟨Op.i32Const, .i32 k⟩ :: c, labels, stack, locals, store⟩
      ⟨c, labels, .i32 k.toUInt32 :: stack, locals, store⟩ := rfl

theorem next_load {arg : MemArg} {base w : UInt32}
    (h : store.memory.word? (base.toNat + arg.offset.toNat) = some w) :
    Next host ⟨⟨Op.i32Load, .memory arg⟩ :: c, labels, .i32 base :: stack, locals, store⟩
      ⟨c, labels, .i32 w :: stack, locals, store⟩ := by
  change load ⟨c, labels, .i32 base :: stack, locals, store⟩ arg = _
  simp only [load, h]

theorem next_storeWord {arg : MemArg} {base w : UInt32} {memory : Memory} {input : Bytes}
    {output : Array UInt8} (h : base.toNat + arg.offset.toNat + 4 ≤ memory.size) :
    Next host ⟨⟨Op.i32Store, .memory arg⟩ :: c, labels, .i32 w :: .i32 base :: stack, locals,
        ⟨memory, input, output⟩⟩
      ⟨c, labels, stack, locals,
        ⟨memory.setWord (base.toNat + arg.offset.toNat) w, input, output⟩⟩ :=
  if_pos h

theorem next_storeByte {arg : MemArg} {base w : UInt32} {memory : Memory} {input : Bytes}
    {output : Array UInt8} (h : base.toNat + arg.offset.toNat < memory.size) :
    Next host ⟨⟨Op.i32Store8, .memory arg⟩ :: c, labels, .i32 w :: .i32 base :: stack, locals,
        ⟨memory, input, output⟩⟩
      ⟨c, labels, stack, locals,
        ⟨memory.setByte (base.toNat + arg.offset.toNat) w.toUInt8, input, output⟩⟩ :=
  if_pos h

theorem next_add {a b : UInt32} {imm : Immediate} :
    Next host ⟨⟨Op.i32Add, imm⟩ :: c, labels, .i32 b :: .i32 a :: stack, locals, store⟩
      ⟨c, labels, .i32 (a + b) :: stack, locals, store⟩ := rfl

theorem next_sub {a b : UInt32} {imm : Immediate} :
    Next host ⟨⟨Op.i32Sub, imm⟩ :: c, labels, .i32 b :: .i32 a :: stack, locals, store⟩
      ⟨c, labels, .i32 (a - b) :: stack, locals, store⟩ := rfl

theorem next_eqz {a : UInt32} {imm : Immediate} :
    Next host ⟨⟨Op.i32Eqz, imm⟩ :: c, labels, .i32 a :: stack, locals, store⟩
      ⟨c, labels, .i32 (truth (a == 0)) :: stack, locals, store⟩ := rfl

theorem next_eq {a b : UInt32} {imm : Immediate} :
    Next host ⟨⟨Op.i32Eq, imm⟩ :: c, labels, .i32 b :: .i32 a :: stack, locals, store⟩
      ⟨c, labels, .i32 (truth (a == b)) :: stack, locals, store⟩ := rfl

theorem next_ne {a b : UInt32} {imm : Immediate} :
    Next host ⟨⟨Op.i32Ne, imm⟩ :: c, labels, .i32 b :: .i32 a :: stack, locals, store⟩
      ⟨c, labels, .i32 (truth (a != b)) :: stack, locals, store⟩ := rfl

theorem next_brIf_zero {l : UInt32} :
    Next host ⟨⟨Op.brIf, .branch l⟩ :: c, labels, .i32 0 :: stack, locals, store⟩
      ⟨c, labels, stack, locals, store⟩ := rfl

/-- A branch taken to the innermost block starts it again if it is a loop. -/
theorem next_brIf_back {cond : UInt32} (h : cond ≠ 0) {below : List Value} {body : List Instr} :
    Next host
      ⟨⟨Op.brIf, .branch 0⟩ :: c, .back below body :: labels, .i32 cond :: stack, locals, store⟩
      ⟨body, .back below body :: labels, [], locals, store⟩ :=
  if_neg h

/-- A branch taken to the innermost block leaves it if it is no loop. -/
theorem next_brIf_forward {cond : UInt32} (h : cond ≠ 0) {below : List Value} {l : Label}
    {rest : List Instr} (hrest : afterEnd 0 c = some rest) :
    Next host
      ⟨⟨Op.brIf, .branch 0⟩ :: c, .forward 0 below :: l :: labels, .i32 cond :: stack, locals,
        store⟩
      ⟨rest, l :: labels, below, locals, store⟩ := by
  refine (if_neg h).trans ?_
  simp [branch, hrest, resume]

theorem next_block :
    Next host ⟨⟨Op.block, .block emptyType⟩ :: c, labels, stack, locals, store⟩
      ⟨c, .forward 0 stack :: labels, [], locals, store⟩ := rfl

theorem next_loop :
    Next host ⟨⟨Op.loop, .block emptyType⟩ :: c, labels, stack, locals, store⟩
      ⟨c, .back stack c :: labels, [], locals, store⟩ := rfl

theorem next_ifThen {cond : UInt32} (h : cond ≠ 0) :
    Next host ⟨⟨Op.ifThen, .block emptyType⟩ :: c, labels, .i32 cond :: stack, locals, store⟩
      ⟨c, .forward 0 stack :: labels, [], locals, store⟩ :=
  if_neg h

theorem next_ifThen_skip {rest : List Instr} (h : afterEnd 0 c = some rest) :
    Next host ⟨⟨Op.ifThen, .block emptyType⟩ :: c, labels, .i32 0 :: stack, locals, store⟩
      ⟨rest, labels, stack, locals, store⟩ := by
  change skip ⟨c, labels, stack, locals, store⟩ emptyType = _
  simp only [skip, h, if_true]

theorem next_stop {imm : Immediate} {l l' : Label} :
    Next host ⟨⟨Op.stop, imm⟩ :: c, l :: l' :: labels, stack, locals, store⟩
      ⟨c, l' :: labels, stack ++ l.below, locals, store⟩ := rfl

theorem next_call {f : UInt32} {call : HostCall} (h : host[f.toNat]? = some call)
    {result count descriptors stream : UInt32} :
    Next host
      ⟨⟨Op.call, .call f⟩ :: c, labels,
        .i32 result :: .i32 count :: .i32 descriptors :: .i32 stream :: stack, locals, store⟩
      ⟨c, labels, .i32 (store.call call stream descriptors count result).2 :: stack, locals,
        (store.call call stream descriptors count result).1⟩ := by
  unfold Next
  conv => lhs; whnf
  rw [h]
  rfl

theorem next_drop {imm : Immediate} {x : Value} :
    Next host ⟨⟨Op.drop, imm⟩ :: c, labels, x :: stack, locals, store⟩
      ⟨c, labels, stack, locals, store⟩ := rfl

end Steps
end TapeWasm.Wasm.Machine
