import TapeWasm.Proofs.Machine.Run

/-!
What a run does to the world around its operands and variables, as far as output is concerned: the
bytes that it stores one at a time, and what it has the host write. A trace lists these effects in
their order.
-/
namespace TapeWasm.Wasm

/-- One byte is stored at an address, or the host is asked to write and puts out some bytes. -/
inductive Effect where
  | storedByte (address : Nat)
  | wrote (bytes : Bytes)
  deriving DecidableEq, Repr

namespace Effect

def store? : Effect → Option Nat
  | storedByte address => some address
  | wrote _ => none

def write? : Effect → Option Bytes
  | storedByte _ => none
  | wrote bytes => some bytes

def stores (es : List Effect) : List Nat :=
  es.filterMap store?

/-- What the host was asked to write, call by call. -/
def writes (es : List Effect) : List Bytes :=
  es.filterMap write?

variable {es es' : List Effect}

@[simp] theorem stores_nil : stores [] = [] := rfl

@[simp] theorem stores_storedByte (a : Nat) : stores (.storedByte a :: es) = a :: stores es := rfl

@[simp] theorem stores_wrote (bytes : Bytes) : stores (.wrote bytes :: es) = stores es := rfl

@[simp] theorem stores_append : stores (es ++ es') = stores es ++ stores es' :=
  List.filterMap_append

@[simp] theorem writes_nil : writes [] = [] := rfl

@[simp] theorem writes_storedByte (a : Nat) : writes (.storedByte a :: es) = writes es := rfl

@[simp] theorem writes_wrote (bytes : Bytes) :
    writes (.wrote bytes :: es) = bytes :: writes es := rfl

@[simp] theorem writes_append : writes (es ++ es') = writes es ++ writes es' :=
  List.filterMap_append

end Effect

/-- What a call has put out, from the stores before and after it. -/
def HostCall.effects : HostCall → Store → Store → List Effect
  | read, _, _ => []
  | write, before, after => [.wrote (after.output.toList.drop before.output.size)]

namespace Machine

def observe (host : List HostCall) (m : Machine) : List Effect :=
  match m with
  | ⟨⟨Op.i32Store8, .memory arg⟩ :: _, _, .i32 _ :: .i32 base :: _, _, _⟩ =>
    [.storedByte (base.toNat + arg.offset.toNat)]
  | ⟨⟨Op.call, .call f⟩ :: _, _,
      .i32 result :: .i32 count :: .i32 descriptors :: .i32 stream :: _, _, store⟩ =>
    match host[f.toNat]? with
    | some c => c.effects store (store.call c stream descriptors count result).1
    | none => []
  | _ => []

theorem observe_call {host : List HostCall} {f : UInt32} {c : HostCall}
    (h : host[f.toNat]? = some c) {code : List Instr} {labels : List Label}
    {result count descriptors stream : UInt32} {stack locals : List Value} {store : Store} :
    observe host ⟨⟨Op.call, .call f⟩ :: code, labels,
        .i32 result :: .i32 count :: .i32 descriptors :: .i32 stream :: stack, locals, store⟩ =
      c.effects store (store.call c stream descriptors count result).1 := by
  unfold observe
  conv => lhs; whnf
  rw [h]

/-- The effects of at most so many steps. -/
def trace (host : List HostCall) : Nat → Machine → List Effect
  | 0, _ => []
  | n + 1, m =>
    observe host m ++
      match step host m with
      | .next m' => trace host n m'
      | _ => []

/-- At least one step leads from one machine to another, with these effects. -/
inductive Emits (host : List HostCall) : Machine → List Effect → Machine → Prop
  | single {m m' : Machine} (h : Next host m m') : Emits host m (observe host m) m'
  | head {m m' r : Machine} {es : List Effect} (h : Next host m m') (rest : Emits host m' es r) :
    Emits host m (observe host m ++ es) r

variable {host : List HostCall} {m m' r : Machine} {es es' : List Effect}

namespace Emits

theorem trans (h : Emits host m es m') (h' : Emits host m' es' r) :
    Emits host m (es ++ es') r := by
  induction h with
  | single hnext => exact .head hnext h'
  | head hnext _ ih =>
    rw [List.append_assoc]
    exact .head hnext (ih h')

theorem transGen (h : Emits host m es m') : Relation.TransGen (Next host) m m' := by
  induction h with
  | single hnext => exact .single hnext
  | head hnext _ ih => exact .head hnext ih

theorem to_reflTransGen (h : Emits host m es m') : Reaches host m m' :=
  h.transGen.to_reflTransGen

end Emits

theorem trace_succ_of_next (h : Next host m m') (n : Nat) :
    trace host (n + 1) m = observe host m ++ trace host n m' := by
  rw [trace, show step host m = _ from h]

/-- The trace of a run that goes on begins with the effects so far. -/
theorem Emits.exists_run (h : Emits host m es m') :
    ∃ k, 0 < k ∧ ∀ n, run host (n + k) m = run host n m' ∧
      trace host (n + k) m = es ++ trace host n m' := by
  induction h with
  | single hnext =>
    exact ⟨1, Nat.one_pos, fun n => ⟨run_succ_of_next hnext n, trace_succ_of_next hnext n⟩⟩
  | head hnext _ ih =>
    obtain ⟨k, -, hk⟩ := ih
    refine ⟨k + 1, Nat.succ_pos k, fun n => ?_⟩
    obtain ⟨hrun, htrace⟩ := hk n
    rw [← Nat.add_assoc, run_succ_of_next hnext, trace_succ_of_next hnext, htrace,
      List.append_assoc]
    exact ⟨hrun, rfl⟩

theorem trace_grows (n k : Nat) (m : Machine) : trace host n m <+: trace host (n + k) m := by
  induction n generalizing m with
  | zero => exact List.nil_prefix
  | succ n ih =>
    rw [Nat.add_right_comm, trace, trace]
    cases step host m with
    | next m' => exact (List.prefix_append_right_inj _).mpr (ih m')
    | finished m' | trapped t m' | stuck m' => exact List.prefix_refl _

/-- A step at which a run ends is its last effect. -/
theorem trace_of_not_next (h : ∀ m', step host m ≠ .next m') (hquiet : observe host m = [])
    (n : Nat) : trace host n m = [] := by
  cases n with
  | zero => rfl
  | succ n =>
    rw [trace, hquiet]
    cases hs : step host m with
    | next m' => exact absurd hs (h m')
    | finished m' | trapped t m' | stuck m' => rfl

/-- A run does not finish with an effect. -/
theorem observe_of_finished (h : step host m = .finished r) : observe host m = [] := by
  unfold observe
  split
  · unfold step perform storeByte at h
    simp only at h
    split at h <;> cases h
  · unfold step perform callHost at h
    simp only at h
    split at h <;> cases h
  · rfl

end Machine
end TapeWasm.Wasm
