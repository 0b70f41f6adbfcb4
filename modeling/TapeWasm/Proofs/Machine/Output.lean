import TapeWasm.Proofs.Machine.Replace

/-!
What a run has put out stays put out: a step leaves the output as it is or appends to it, and a trap
leaves it as it is. So whatever is delivered by a machine is delivered by a similar one, even if the
first one fails where the other goes on. The size of the memory never changes.
-/
namespace TapeWasm.Wasm

theorem Store.output_gather (s : Store) (ds : List (Nat × Nat)) (moved : Nat) :
    s.output.toList <+: (s.gather ds moved).1.output.toList := by
  induction ds generalizing s moved with
  | nil => exact List.prefix_refl _
  | cons d ds ih =>
    obtain ⟨a, n⟩ := d
    rw [gather]
    split
    · exact List.prefix_refl _
    · rename_i b _
      have hmore := ih { s with output := s.output ++ b } (moved + n)
      rw [Array.toList_append] at hmore
      exact (List.prefix_append _ _).trans hmore

theorem Store.output_scatter (s : Store) (ds : List (Nat × Nat)) (moved : Nat) :
    (s.scatter ds moved).1.output = s.output := by
  induction ds generalizing s moved with
  | nil => rfl
  | cons d ds ih =>
    obtain ⟨a, n⟩ := d
    rw [scatter]
    split
    · simp only
      split
      · rfl
      · exact ih _ _
    · rfl

theorem Store.output_conclude (r : Store × Option Nat) (a : Nat) :
    (conclude r a).1.output = r.1.output := by
  obtain ⟨s, moved⟩ := r
  cases moved with
  | none => rfl
  | some moved =>
    rw [conclude]
    split <;> rfl

theorem Store.output_call (s : Store) (c : HostCall) (stream descriptors count result : UInt32) :
    s.output.toList <+: (s.call c stream descriptors count result).1.output.toList := by
  cases c with
  | read =>
    rw [call]
    split
    · split
      · simp only [output_conclude, output_scatter, List.prefix_refl]
      · exact List.prefix_refl _
    · exact List.prefix_refl _
  | write =>
    rw [call]
    split
    · split
      · rw [output_conclude]
        exact output_gather s _ 0
      · exact List.prefix_refl _
    · exact List.prefix_refl _

theorem Store.memory_gather (s : Store) (ds : List (Nat × Nat)) (moved : Nat) :
    (s.gather ds moved).1.memory = s.memory := by
  induction ds generalizing s moved with
  | nil => rfl
  | cons d ds ih =>
    obtain ⟨a, n⟩ := d
    rw [gather]
    split
    · rfl
    · exact ih _ _

theorem Store.size_scatter (s : Store) (ds : List (Nat × Nat)) (moved : Nat) :
    (s.scatter ds moved).1.memory.size = s.memory.size := by
  induction ds generalizing s moved with
  | nil => rfl
  | cons d ds ih =>
    obtain ⟨a, n⟩ := d
    rw [scatter]
    split
    · simp only
      split
      · exact Memory.size_fill _ _ _
      · rw [ih]
        exact Memory.size_fill _ _ _
    · rfl

theorem Store.size_conclude (r : Store × Option Nat) (a : Nat) :
    (conclude r a).1.memory.size = r.1.memory.size := by
  obtain ⟨s, moved⟩ := r
  cases moved with
  | none => rfl
  | some moved =>
    rw [conclude]
    split
    · exact Memory.size_setWord _ _ _
    · rfl

theorem Store.size_call (s : Store) (c : HostCall) (stream descriptors count result : UInt32) :
    (s.call c stream descriptors count result).1.memory.size = s.memory.size := by
  cases c with
  | read =>
    rw [call]
    split
    · split
      · rw [size_conclude, size_scatter]
      · rfl
    · rfl
  | write =>
    rw [call]
    split
    · split
      · rw [size_conclude, memory_gather]
      · rfl
    · rfl

/-- A step that goes on puts out nothing or more, and the memory keeps its size; any other leaves the
output as it is. -/
def Step.Appends (store : Store) : Step → Prop
  | .next m =>
    store.output.toList <+: m.store.output.toList ∧ m.store.memory.size = store.memory.size
  | .finished m | .trapped _ m | .stuck m => m.store.output = store.output

theorem Step.Appends.same {m : Machine} {store : Store} (h : m.store = store) :
    (Step.next m).Appends store :=
  h ▸ ⟨List.prefix_refl _, rfl⟩

namespace Machine

def Outcome.machine : Outcome → Machine
  | .finished m | .trapped _ m | .stuck m | .unfinished m => m

/-- A run comes to where these bytes, and no others, have been put out. -/
def Delivers (host : List HostCall) (output : Array UInt8) (m : Machine) : Prop :=
  ∃ r, Reaches host m r ∧ r.store.output = output

theorem appends_resume (m : Machine) : m.resume.Appends m.store := by
  unfold resume
  split
  · rfl
  · exact .same rfl

theorem appends_branch (m : Machine) (depth : Nat) :
    (m.branch depth).Appends m.store := by
  unfold branch
  split
  · rfl
  · exact .same rfl
  · split
    · rfl
    · split
      · rfl
      · exact appends_resume _

theorem appends_close (m : Machine) : m.close.Appends m.store := by
  unfold close
  split
  · rfl
  · exact appends_resume _

theorem appends_enter (m : Machine) (type : Int32) (label : List Value → Label) :
    (m.enter type label).Appends m.store := by
  unfold enter
  split
  · exact .same rfl
  · rfl

theorem appends_skip (m : Machine) (type : Int32) : (m.skip type).Appends m.store := by
  unfold skip
  split
  · split
    · exact .same rfl
    · rfl
  · rfl

theorem appends_unary (m : Machine) (f : UInt32 → UInt32) :
    (m.unary f).Appends m.store := by
  unfold unary
  split
  · exact .same rfl
  · rfl

theorem appends_binary (m : Machine) (f : UInt32 → UInt32 → UInt32) :
    (m.binary f).Appends m.store := by
  unfold binary
  split
  · exact .same rfl
  · rfl

theorem appends_storeWord (m : Machine) (arg : MemArg) :
    (m.storeWord arg).Appends m.store := by
  unfold storeWord
  split
  · simp only
    split
    · exact ⟨List.prefix_refl _, Memory.size_setWord _ _ _⟩
    · rfl
  · rfl

theorem appends_storeByte (m : Machine) (arg : MemArg) :
    (m.storeByte arg).Appends m.store := by
  unfold storeByte
  split
  · simp only
    split
    · exact ⟨List.prefix_refl _, Memory.size_setByte _ _ _⟩
    · rfl
  · rfl

theorem appends_callHost (m : Machine) (c : HostCall) :
    (m.callHost c).Appends m.store := by
  unfold callHost
  split
  · exact ⟨Store.output_call _ _ _ _ _ _, Store.size_call _ _ _ _ _ _⟩
  · rfl

theorem appends_perform (host : List HostCall) (i : Instr) (m : Machine) :
    (perform host i m).Appends m.store := by
  unfold perform
  split
  case h_1 =>
    unfold getLocal
    split
    · exact .same rfl
    · rfl
  case h_2 =>
    unfold setLocal
    split
    · split
      · exact .same rfl
      · rfl
    · rfl
  case h_3 | h_19 => exact .same rfl
  case h_4 =>
    unfold load
    split
    · split
      · exact .same rfl
      · rfl
    · rfl
  case h_5 => exact appends_storeWord m _
  case h_6 | h_7 | h_9 | h_10 => exact appends_binary m _
  case h_8 => exact appends_unary m _
  case h_11 =>
    split
    · simp only
      split
      · exact .same rfl
      · exact appends_branch _ _
    · rfl
  case h_12 | h_13 => exact appends_enter m _ _
  case h_14 =>
    split
    · simp only
      split
      · exact appends_skip _ _
      · exact appends_enter _ _ _
    · rfl
  case h_15 => exact appends_close m
  case h_16 => exact appends_storeByte m _
  case h_17 =>
    split
    · exact appends_callHost m _
    · rfl
  case h_18 =>
    split
    · exact .same rfl
    · rfl
  case h_20 | h_21 => rfl

theorem appends_step (host : List HostCall) (m : Machine) :
    (step host m).Appends m.store := by
  unfold step
  split
  · rfl
  · exact appends_perform host _ _

section Runs

variable {host : List HostCall} {m r : Machine} {n : Nat}

/-- What was put out stays put out. -/
theorem run_output_grows (host : List HostCall) (n : Nat) (m : Machine) :
    m.store.output.toList <+: (run host n m).machine.store.output.toList := by
  induction n generalizing m with
  | zero => exact List.prefix_refl _
  | succ n ih =>
    have happends := appends_step host m
    rw [run]
    cases hs : step host m with
    | next m' =>
      rw [hs] at happends
      exact List.IsPrefix.trans happends.1 (ih m')
    | finished m' | trapped t m' | stuck m' =>
      rw [hs] at happends
      exact (congrArg Array.toList happends).symm ▸ List.prefix_refl _

theorem exists_next_of_run (h : run host (n + 1) m = .unfinished r) :
    ∃ m', Next host m m' ∧ run host n m' = .unfinished r := by
  rw [run] at h
  cases hs : step host m with
  | next m' =>
    rw [hs] at h
    exact ⟨m', hs, h⟩
  | finished m' | trapped t m' | stuck m' =>
    rw [hs] at h
    cases h

theorem run_add_of_unfinished (h : run host n m = .unfinished r) (k : Nat) :
    run host (n + k) m = run host k r := by
  induction n generalizing m with
  | zero =>
    obtain rfl := Outcome.unfinished.inj h
    rw [Nat.zero_add]
  | succ n ih =>
    obtain ⟨m', hnext, hrest⟩ := exists_next_of_run h
    rw [Nat.add_right_comm, run_succ_of_next hnext]
    exact ih hrest

theorem reaches_of_run (h : run host n m = .unfinished r) : Reaches host m r := by
  induction n generalizing m with
  | zero =>
    obtain rfl := Outcome.unfinished.inj h
    exact .refl
  | succ n ih =>
    obtain ⟨m', hnext, hrest⟩ := exists_next_of_run h
    exact .head hnext (ih hrest)

theorem Reaches.output_grows (h : Reaches host m r) :
    m.store.output.toList <+: r.store.output.toList := by
  obtain ⟨k, hk⟩ := h.run_eq
  have hle := run_output_grows host (0 + k) m
  rw [hk 0] at hle
  exact hle

theorem Reaches.memory_size (h : Reaches host m r) :
    r.store.memory.size = m.store.memory.size := by
  induction h with
  | refl => rfl
  | @tail m₁ m₂ _ hnext ih =>
    have happends := appends_step host m₁
    rw [show step host m₁ = _ from hnext] at happends
    rw [happends.2, ih]

theorem output_eq_of_between {last : Machine} (h : Reaches host m r)
    (hlast : r.store.output.toList <+: last.store.output.toList)
    (hsame : last.store.output = m.store.output) : r.store.output = m.store.output := by
  rw [hsame] at hlast
  exact Array.toList_inj.mp (hlast.eq_of_length_le h.output_grows.length_le)

/-- A run that fails without touching the store has put out nothing anywhere. -/
theorem Breaks.output_eq (hb : Breaks host m) (h : Reaches host m r) :
    r.store.output = m.store.output := by
  have hend : ∃ n o, run host n m = o ∧ o.Ended ∧ o.machine.store = m.store := by
    rcases hb with ⟨n, e, hn, hstore⟩ | ⟨t, n, e, hn, hstore⟩
    · exact ⟨n, _, hn, trivial, hstore⟩
    · exact ⟨n, _, hn, trivial, hstore⟩
  obtain ⟨n, o, hn, ho, hstore⟩ := hend
  obtain ⟨k, hk⟩ := (Reaches.ends_iff h ho).mp ⟨n, hn⟩
  have hlast := run_output_grows host k r
  rw [hk] at hlast
  exact output_eq_of_between h hlast (congrArg Store.output hstore)

/-- A trap comes after all that the run delivers. -/
theorem TrapsWith.delivers {t : Trap} {store : Store} (h : TrapsWith host t store m) :
    Delivers host store.output m := by
  obtain ⟨n, r, hn, rfl⟩ := h
  induction n generalizing m with
  | zero => cases hn
  | succ n ih =>
    have happends := appends_step host m
    rw [run] at hn
    cases hs : step host m with
    | next m' =>
      rw [hs] at hn
      obtain ⟨last, hreach, hlast⟩ := ih hn
      exact ⟨last, .head hs hreach, hlast⟩
    | trapped t' m' =>
      rw [hs] at hn happends
      obtain ⟨-, rfl⟩ := Outcome.trapped.inj hn
      exact ⟨m, .refl, happends.symm⟩
    | finished m' | stuck m' =>
      rw [hs] at hn
      cases hn

theorem Similar.store_eq {a b : List Instr} {m' : Machine} (h : Similar a b m m') :
    m'.store = m.store := by
  cases h
  rfl

/-- What a machine delivers a similar one delivers too. -/
theorem Similar.delivers {a b : List Instr} (hr : Replaceable host (Breaks host) a b)
    {m' : Machine} {output : Array UInt8} (h : Similar a b m m') (hd : Delivers host output m) :
    Delivers host output m' := by
  obtain ⟨r, hreach, rfl⟩ := hd
  obtain ⟨n, hn⟩ : ∃ n, run host n m = .unfinished r := by
    obtain ⟨k, hk⟩ := hreach.run_eq
    exact ⟨0 + k, hk 0⟩
  -- The induction is on the steps that are left; a piece of code may take many of them at once.
  induction n using Nat.strongRecOn generalizing m m' with
  | ind n ih =>
    have hreach := reaches_of_run hn
    have hnow (he : r.store.output = m.store.output) : Delivers host r.store.output m' :=
      ⟨m', .refl, by rw [h.store_eq, he]⟩
    rcases h.sync hr with hb | ⟨t, ht, -⟩ | ⟨m₁, m₁', h₁, h₁', houtput, hstep⟩
    · exact hnow (hb.output_eq hreach)
    · exact hnow (Breaks.output_eq (.inr ⟨t, ht⟩) hreach)
    obtain ⟨k, hk⟩ := h₁.run_eq
    by_cases hle : n ≤ k
    · -- The run has not come past the piece of code.
      have hrest : run host (k - n) r = .unfinished m₁ := by
        rw [← run_add_of_unfinished hn, Nat.add_sub_cancel' hle, ← Nat.zero_add k, hk 0]
        rfl
      exact hnow (output_eq_of_between hreach (reaches_of_run hrest).output_grows houtput)
    · obtain ⟨j, rfl⟩ : ∃ j, n = j + 1 + k := ⟨n - k - 1, by omega⟩
      rw [hk, run] at hn
      generalize hs : step host m₁ = s, hs' : step host m₁' = s' at hstep
      rw [hs] at hn
      cases hstep with
      | next hsim =>
        obtain ⟨r', hr', hsame⟩ := ih j (by omega) hsim (reaches_of_run hn) hn
        exact ⟨r', h₁'.trans (.head hs' hr'), hsame⟩
      | finished | trapped | stuck => cases hn

end Runs
end Machine
end TapeWasm.Wasm
