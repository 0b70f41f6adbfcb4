import Mathlib.Data.Int.GCD
import TapeWasm.Proofs.Machine.Memory
import TapeWasm.Proofs.Machine.Replace
import TapeWasm.Proofs.Peephole.Rules

/-!
The effect of the pieces of code that condensing replaces. A move adds to a variable, a change adds
to the word at a variable's address, and a loop that takes an odd number away comes to zero. So each
rule keeps what its piece of code does. A change and a loop trap if there is no word at the address;
what is put in their place traps there too, unless it is nothing at all.
-/
namespace TapeWasm.Peephole

open Wasm Machine Relation

/-! Moves. -/

section Moves

variable {host : List HostCall} {locals : List Value} {store : Store} {v : UInt32} {op : UInt8}
  {k d : Int32}

theorem wedges_localGet {c : List Instr} {labels : List Wasm.Label} {stack : List Value}
    (h : locals[v.toNat]? = none) :
    Wedges host ⟨⟨Op.localGet, .localVar v⟩ :: c, labels, stack, locals, store⟩ := by
  refine ⟨1, ⟨c, labels, stack, locals, store⟩, ?_, rfl⟩
  have hstep : step host ⟨⟨Op.localGet, .localVar v⟩ :: c, labels, stack, locals, store⟩ =
      .stuck ⟨c, labels, stack, locals, store⟩ := by
    change getLocal ⟨c, labels, stack, locals, store⟩ v = _
    rw [getLocal, h]
  rw [run, hstep]

theorem Moves.next (h : Moves op k d) {c : List Instr} {labels : List Wasm.Label}
    {stack : List Value} {x : UInt32} :
    Next host ⟨⟨op, .none⟩ :: c, labels, .i32 k.toUInt32 :: .i32 x :: stack, locals, store⟩
      ⟨c, labels, .i32 (x + d.toUInt32) :: stack, locals, store⟩ := by
  cases h with
  | add => exact next_add
  | sub =>
    have hneg : x - k.toUInt32 = x + (-k).toUInt32 := UInt32.sub_eq_add_neg _ _
    rw [← hneg]
    exact next_sub

/-- A move adds to a variable that holds a word. -/
theorem Moves.yields (h : Moves op k d) {x : UInt32} (hv : locals[v.toNat]? = some (.i32 x)) :
    Yields host (moveCode v op k) locals store
      (locals.set v.toNat (.i32 (x + d.toUInt32))) store := by
  intro after labels stack _
  have hlt : v.toNat < locals.length := (List.getElem?_eq_some_iff.mp hv).1
  exact .head (next_localGet hv) (.head next_const (.head h.next (.single (next_localSet hlt))))

theorem yields_move (host : List HostCall) (store : Store) (d : Int32) {x : UInt32}
    (hv : locals[v.toNat]? = some (.i32 x)) :
    Yields host (Group.move v d).code locals store (locals.set v.toNat (.i32 (x + d.toUInt32)))
      store :=
  (moves_stepBy d).yields hv

theorem Moves.wedges (h : Moves op k d) (hv : ∀ x, locals[v.toNat]? ≠ some (.i32 x)) :
    Everywhere (Wedges host) (moveCode v op k) locals store := by
  intro after labels stack _
  cases hget : locals[v.toNat]? with
  | none => exact wedges_localGet hget
  | some y =>
    refine wedges_of_reaches (.head (next_localGet hget) (.single next_const)) rfl ?_
    refine ⟨1, ⟨[⟨Op.localSet, .localVar v⟩] ++ after, labels,
      .i32 k.toUInt32 :: y :: stack, locals, store⟩, ?_, rfl⟩
    cases y with
    | i32 x => exact absurd hget (hv x)
    | i64 | f32 | f64 => cases h <;> rfl

end Moves

/-! Changes of a word in memory. -/

/-- A variable holds an address, and the word there is `w`. -/
structure Reads (locals : List Value) (store : Store) (v : UInt32) (arg : MemArg) (a w : UInt32) :
    Prop where
  base : locals[v.toNat]? = some (.i32 a)
  word : store.memory.word? (a.toNat + arg.offset.toNat) = some w

/-- A variable holds an address, and there is no word there. -/
structure Misses (locals : List Value) (store : Store) (v : UInt32) (arg : MemArg) (a : UInt32) :
    Prop where
  base : locals[v.toNat]? = some (.i32 a)
  word : store.memory.word? (a.toNat + arg.offset.toNat) = none

theorem reads_or_misses {locals : List Value} {a : UInt32} (store : Store) {v : UInt32}
    (arg : MemArg) (h : locals[v.toNat]? = some (.i32 a)) :
    Misses locals store v arg a ∨ ∃ w, Reads locals store v arg a w := by
  cases hword : store.memory.word? (a.toNat + arg.offset.toNat) with
  | none => exact .inl ⟨h, hword⟩
  | some w => exact .inr ⟨w, h, hword⟩

def put (store : Store) (a : UInt32) (arg : MemArg) (w : UInt32) : Store :=
  { store with memory := store.memory.setWord (a.toNat + arg.offset.toNat) w }

section Changes

variable {host : List HostCall} {locals : List Value} {store : Store} {v : UInt32} {arg : MemArg}
  {a w : UInt32} {op : UInt8} {k d : Int32} {c : List Instr} {labels : List Wasm.Label}
  {stack : List Value}

theorem Reads.put (h : Reads locals store v arg a w) (x : UInt32) :
    Reads locals (put store a arg x) v arg a x :=
  ⟨h.base, Memory.word?_setWord_self x (Memory.size_of_word? h.word)⟩

theorem Reads.put_self (h : Reads locals store v arg a w) : Peephole.put store a arg w = store := by
  rw [Peephole.put, Memory.setWord_self h.word]

theorem Reads.put_put (h : Reads locals store v arg a w) (x y : UInt32) :
    Peephole.put (Peephole.put store a arg x) a arg y = Peephole.put store a arg y := by
  simp only [Peephole.put]
  rw [Memory.setWord_setWord x y (Memory.size_of_word? h.word)]

theorem Reads.reaches (h : Reads locals store v arg a w) :
    Reaches host
      ⟨⟨Op.localGet, .localVar v⟩ :: ⟨Op.i32Load, .memory arg⟩ :: c, labels, stack, locals, store⟩
      ⟨c, labels, .i32 w :: stack, locals, store⟩ :=
  .head (next_localGet h.base) (.single (next_load h.word))

theorem Reads.next_store (h : Reads locals store v arg a w) {x : UInt32} :
    Next host ⟨⟨Op.i32Store, .memory arg⟩ :: c, labels, .i32 x :: .i32 a :: stack, locals, store⟩
      ⟨c, labels, stack, locals, Peephole.put store a arg x⟩ :=
  next_storeWord (Memory.size_of_word? h.word)

theorem wedges_read (hv : ∀ x, locals[v.toNat]? ≠ some (.i32 x)) :
    Wedges host
      ⟨⟨Op.localGet, .localVar v⟩ :: ⟨Op.i32Load, .memory arg⟩ :: c, labels, stack, locals,
        store⟩ := by
  cases hget : locals[v.toNat]? with
  | none => exact wedges_localGet hget
  | some y =>
    refine wedges_of_reaches (.single (next_localGet hget)) rfl ?_
    cases y with
    | i32 x => exact absurd hget (hv x)
    | i64 | f32 | f64 => exact ⟨1, _, rfl, rfl⟩

theorem Misses.read (h : Misses locals store v arg a) :
    TrapsWith host .outOfBounds store
      ⟨⟨Op.localGet, .localVar v⟩ :: ⟨Op.i32Load, .memory arg⟩ :: c, labels, stack, locals,
        store⟩ := by
  have hstep : step host ⟨⟨Op.i32Load, .memory arg⟩ :: c, labels, .i32 a :: stack, locals, store⟩ =
      .trapped .outOfBounds ⟨c, labels, .i32 a :: stack, locals, store⟩ := by
    change load ⟨c, labels, .i32 a :: stack, locals, store⟩ arg = _
    simp only [load, h.word]
  exact trapsWith_of_reaches (.single (next_localGet h.base)) (trapsWith_of_step hstep)

/-- A change adds to the word at a variable's address. -/
theorem Moves.yields_change (h : Moves op k d) (hr : Reads locals store v arg a w) :
    Yields host (changeCode v arg op k) locals store locals
      (Peephole.put store a arg (w + d.toUInt32)) := by
  intro after labels stack _
  exact .head (next_localGet hr.base)
    (hr.reaches.trans (.head next_const (.head h.next (.single hr.next_store))))

theorem yields_change (host : List HostCall) (d : Int32) (hr : Reads locals store v arg a w) :
    Yields host (Group.change v arg d).code locals store locals
      (Peephole.put store a arg (w + d.toUInt32)) :=
  (moves_stepBy d).yields_change hr

theorem wedges_change (hv : ∀ x, locals[v.toNat]? ≠ some (.i32 x)) :
    Everywhere (Wedges host) (changeCode v arg op k) locals store := by
  intro after labels stack _
  cases hget : locals[v.toNat]? with
  | none => exact wedges_localGet hget
  | some y => exact wedges_of_reaches (.single (next_localGet hget)) rfl (wedges_read hv)

theorem Misses.change (h : Misses locals store v arg a) :
    Everywhere (TrapsWith host .outOfBounds store) (changeCode v arg op k) locals store := by
  intro after labels stack _
  exact trapsWith_of_reaches (.single (next_localGet h.base)) h.read

theorem yields_clear (hr : Reads locals store v arg a w) :
    Yields host (Group.clear v arg).code locals store locals (Peephole.put store a arg 0) := by
  intro after labels stack _
  exact .head (next_localGet hr.base) (.head next_const (.single hr.next_store))

theorem Misses.clear (h : Misses locals store v arg a) :
    Everywhere (TrapsWith host .outOfBounds store) (Group.clear v arg).code locals store := by
  intro after labels stack _
  have hsize : ¬ a.toNat + arg.offset.toNat + 4 ≤ store.memory.size := by
    intro hle
    have hword := h.word
    rw [Memory.word?, if_pos hle] at hword
    cases hword
  have hstep : step host ⟨⟨Op.i32Store, .memory arg⟩ :: after, labels, .i32 0 :: .i32 a :: stack,
      locals, store⟩ =
      .trapped .outOfBounds ⟨after, labels, .i32 0 :: .i32 a :: stack, locals, store⟩ :=
    if_neg hsize
  exact trapsWith_of_reaches (.head (next_localGet h.base) (.single next_const))
    (trapsWith_of_step hstep)

theorem wedges_clearLoop (hv : ∀ x, locals[v.toNat]? ≠ some (.i32 x)) :
    Everywhere (Wedges host) (clearLoop v arg d) locals store := by
  intro after labels stack _
  exact wedges_of_reaches (.single next_block) rfl (wedges_read hv)

/-- The loop looks at the word before its first turn. -/
theorem Misses.clearLoop (h : Misses locals store v arg a) :
    Everywhere (TrapsWith host .outOfBounds store) (clearLoop v arg d) locals store := by
  intro after labels stack _
  exact trapsWith_of_reaches (.single next_block) h.read

end Changes

/-! Loops that change a word until it is zero. -/

theorem odd_of_rem {d : Int32} (h : d % 2 ≠ 0) : d.toUInt32.toNat % 2 = 1 := by
  by_contra heven
  apply h
  apply Int32.toInt_inj.mp
  have hrem : (d % 2).toInt = d.toInt.tmod 2 := Int32.toInt_mod d 2
  have hcond : d.toInt = if 2 * d.toUInt32.toNat < 2 ^ 32 then (d.toUInt32.toNat : Int)
      else d.toUInt32.toNat - 2 ^ 32 := BitVec.toInt_eq_toNat_cond d.toBitVec
  have hdvd : (2 : Int) ∣ d.toInt := by
    rw [hcond]
    split <;> omega
  rw [hrem, Int.tmod_eq_zero_of_dvd hdvd]
  rfl

/-- Adding an odd number often enough brings every word to zero. -/
theorem exists_add_mul_mod_eq_zero {d : Nat} (hd : d % 2 = 1) (w : Nat) :
    ∃ n, (w + (n + 1) * d) % 2 ^ 32 = 0 := by
  have hcoprime : Nat.Coprime d (2 ^ 32) := by
    apply Nat.Coprime.pow_right
    rw [Nat.Coprime, Nat.gcd_comm, Nat.gcd_rec, hd, Nat.gcd_one_left]
  obtain ⟨n, -, hn⟩ :=
    Nat.exists_mul_mod_eq_of_coprime (2 ^ 32 - (w + d) % 2 ^ 32) hcoprime (by decide)
  refine ⟨n, ?_⟩
  rw [Nat.succ_mul, Nat.mul_comm]
  omega

section Loops

variable {host : List HostCall} {locals : List Value} {store : Store} {v : UInt32} {arg : MemArg}
  {a w : UInt32} {d : Int32} {body after : List Instr} {l : Wasm.Label} {labels : List Wasm.Label}
  {stack : List Value}

/-- At zero the loop and the block around it end. -/
theorem reaches_clearTail_zero (hr : Reads locals store v arg a 0) :
    Reaches host
      ⟨clearTail v arg ++ after, .back [] body :: .forward 0 stack :: l :: labels, [], locals,
        store⟩
      ⟨after, l :: labels, stack, locals, store⟩ :=
  hr.reaches.trans (.head next_const (.head next_ne
    (.head next_brIf_zero (.head next_stop (.single next_stop)))))

/-- At any other word the loop goes on. -/
theorem reaches_clearTail_ne (hr : Reads locals store v arg a w) (hw : w ≠ 0) :
    Reaches host
      ⟨clearTail v arg ++ after, .back [] body :: .forward 0 stack :: l :: labels, [], locals,
        store⟩
      ⟨body, .back [] body :: .forward 0 stack :: l :: labels, [], locals, store⟩ := by
  have hcond : truth (w != (0 : Int32).toUInt32) ≠ 0 := by
    have hne : (w != (0 : Int32).toUInt32) = true := bne_iff_ne.mpr hw
    rw [hne]
    decide
  exact hr.reaches.trans (.head next_const (.head next_ne (.single (next_brIf_back hcond))))

theorem reaches_lastTurn (hr : Reads locals store v arg a w) (hzero : w + d.toUInt32 = 0) :
    Reaches host
      ⟨(Group.change v arg d).code ++ (clearTail v arg ++ after),
        .back [] body :: .forward 0 stack :: l :: labels, [], locals, store⟩
      ⟨after, l :: labels, stack, locals, put store a arg 0⟩ := by
  have hchange := yields_change host d hr
  rw [hzero] at hchange
  exact (hchange _ _ _ (List.cons_ne_nil _ _)).trans (reaches_clearTail_zero (hr.put 0))

theorem reaches_clearBody (hr : Reads locals store v arg a w) {n : Nat}
    (hn : (w.toNat + (n + 1) * d.toUInt32.toNat) % 2 ^ 32 = 0)
    (hbody : body = (Group.change v arg d).code ++ (clearTail v arg ++ after)) :
    Reaches host ⟨body, .back [] body :: .forward 0 stack :: l :: labels, [], locals, store⟩
      ⟨after, l :: labels, stack, locals, put store a arg 0⟩ := by
  -- Each turn takes one addition off the number that is left, so the induction is on that number.
  induction n generalizing w store with
  | zero =>
    have hzero : w + d.toUInt32 = 0 := by
      apply UInt32.toNat_inj.mp
      rw [UInt32.toNat_add]
      simpa using hn
    nth_rewrite 1 [hbody]
    exact reaches_lastTurn hr hzero
  | succ n ih =>
    by_cases hzero : w + d.toUInt32 = 0
    · nth_rewrite 1 [hbody]
      exact reaches_lastTurn hr hzero
    · have hrest : ((w + d.toUInt32).toNat + (n + 1) * d.toUInt32.toNat) % 2 ^ 32 = 0 := by
        rw [UInt32.toNat_add, Nat.mod_add_mod]
        rwa [Nat.succ_mul, Nat.add_comm _ d.toUInt32.toNat, ← Nat.add_assoc] at hn
      have hgo := ih (hr.put _) hrest
      rw [hr.put_put] at hgo
      nth_rewrite 1 [hbody]
      exact (yields_change host d hr _ _ _ (List.cons_ne_nil _ _)).trans
        ((reaches_clearTail_ne (hr.put _) hzero).trans hgo)

/-- A loop that changes a word by an odd number leaves zero. -/
theorem yields_clearLoop (hr : Reads locals store v arg a w) (hd : d % 2 ≠ 0) :
    Yields host (clearLoop v arg d) locals store locals (put store a arg 0) := by
  intro after labels stack hne
  obtain ⟨l, labels, rfl⟩ := List.exists_cons_of_ne_nil hne
  rw [clearLoop, List.append_assoc, List.append_assoc]
  refine .head next_block (hr.reaches.trans (.head next_eqz ?_))
  by_cases hw : w = 0
  · subst hw
    have hafter : afterEnd 0 (⟨Op.loop, .block emptyType⟩ ::
        ((Group.change v arg d).code ++ (clearTail v arg ++ after))) = some after :=
      level_changeCode (moves_stepBy d) v arg 1 (clearTail v arg ++ after)
    rw [hr.put_self]
    exact .single (next_brIf_forward (by decide) hafter)
  · have hfalse : truth (w == 0) = 0 := by
      rw [beq_eq_false_iff_ne.mpr hw]
      rfl
    rw [hfalse]
    obtain ⟨n, hn⟩ := exists_add_mul_mod_eq_zero (odd_of_rem hd) w.toNat
    exact .head next_brIf_zero (.head next_loop (reaches_clearBody hr hn rfl))

end Loops

/-! Every rule keeps the effect of its piece of code. -/

theorem Yields.append {host : List HostCall} {a b : List Instr} {l₀ l₁ l₂ : List Value}
    {s₀ s₁ s₂ : Store} (ha : Yields host a l₀ s₀ l₁ s₁) (hb : Yields host b l₁ s₁ l₂ s₂) :
    Yields host (a ++ b) l₀ s₀ l₂ s₂ := by
  intro after labels stack hne
  rw [List.append_assoc]
  exact (ha (b ++ after) labels stack hne).trans (hb after labels stack hne)

theorem Everywhere.append {P : Machine → Prop} {a : List Instr} {locals : List Value}
    {store : Store} (ha : Everywhere P a locals store) (b : List Instr) :
    Everywhere P (a ++ b) locals store := by
  intro after labels stack hne
  rw [List.append_assoc]
  exact ha (b ++ after) labels stack hne

theorem yields_nil (host : List HostCall) (locals : List Value) (store : Store) :
    Yields host [] locals store locals store :=
  fun _ _ _ _ => .refl

theorem add_add_toUInt32 (x : UInt32) (d e : Int32) :
    x + d.toUInt32 + e.toUInt32 = x + (e + d).toUInt32 := by
  rw [Int32.toUInt32_add, UInt32.add_assoc, UInt32.add_comm d.toUInt32]

theorem replaceable_of_move {host : List HostCall} {v : UInt32} {a b : List Instr} (ha : Level a)
    (hb : Level b)
    (hwedges : ∀ locals store, (∀ x, locals[v.toNat]? ≠ some (.i32 x)) →
      Everywhere (Wedges host) a locals store)
    (hyields : ∀ locals store x, locals[v.toNat]? = some (.i32 x) →
      ∃ locals', Yields host a locals store locals' store ∧
        Yields host b locals store locals' store) : Replaceable host (Wedges host) a b where
  level := ha
  level' := hb
  effect locals store := by
    by_cases hv : ∃ x, locals[v.toNat]? = some (.i32 x)
    · obtain ⟨x, hx⟩ := hv
      obtain ⟨locals', hboth⟩ := hyields locals store x hx
      exact .inr (.inr ⟨locals', store, rfl, hboth⟩)
    · exact .inl (hwedges locals store fun x hx => hv ⟨x, hx⟩)

theorem replaceable_of_change {host : List HostCall} {v : UInt32} {arg : MemArg} {a b : List Instr}
    (ha : Level a) (hb : Level b)
    (hwedges : ∀ locals store, (∀ x, locals[v.toNat]? ≠ some (.i32 x)) →
      Everywhere (Wedges host) a locals store)
    (htraps : ∀ locals store x, Misses locals store v arg x →
      Everywhere (TrapsWith host .outOfBounds store) a locals store ∧
        Everywhere (TrapsWith host .outOfBounds store) b locals store)
    (hyields : ∀ locals store x w, Reads locals store v arg x w →
      ∃ y, Yields host a locals store locals (put store x arg y) ∧
        Yields host b locals store locals (put store x arg y)) :
    Replaceable host (Wedges host) a b where
  level := ha
  level' := hb
  effect locals store := by
    by_cases hv : ∃ x, locals[v.toNat]? = some (.i32 x)
    · obtain ⟨x, hx⟩ := hv
      rcases reads_or_misses store arg hx with hmiss | ⟨w, hread⟩
      · exact .inr (.inl ⟨_, htraps locals store x hmiss⟩)
      · obtain ⟨y, hboth⟩ := hyields locals store x w hread
        exact .inr (.inr ⟨locals, put store x arg y, rfl, hboth⟩)
    · exact .inl (hwedges locals store fun x hx => hv ⟨x, hx⟩)

/-- If no change is dropped, then a piece of code and what stands for it trap alike. -/
theorem Permitted.replaceable (host : List HostCall) {a b : List Instr} (h : Permitted False a b) :
    Replaceable host (Wedges host) a b := by
  have hmove (v : UInt32) (d : Int32) := level_moveCode (moves_stepBy d) v
  have hchange (v : UInt32) (arg : MemArg) (d : Int32) := level_changeCode (moves_stepBy d) v arg
  obtain ⟨h, hkept⟩ := h
  cases h with
  | @move v op k d h =>
    refine replaceable_of_move (level_moveCode h v) (hmove v d) (fun _ _ => h.wedges) ?_
    intro locals store x hx
    exact ⟨_, h.yields hx, yields_move host store d hx⟩
  | @change v arg op k d h =>
    refine replaceable_of_change (level_changeCode h v arg) (hchange v arg d)
      (fun _ _ => wedges_change) (fun _ _ _ hmiss => ⟨hmiss.change, hmiss.change⟩) ?_
    intro locals store x w hr
    exact ⟨_, h.yields_change hr, yields_change host d hr⟩
  | addMoves v d e =>
    refine replaceable_of_move (Level.append (hmove v d) (hmove v e)) (hmove v (e + d))
      (fun _ _ hv => Everywhere.append ((moves_stepBy d).wedges hv) _) ?_
    intro locals store x hx
    obtain ⟨hlt, -⟩ := List.getElem?_eq_some_iff.mp hx
    have hx' : (locals.set v.toNat (.i32 (x + d.toUInt32)))[v.toNat]? =
        some (.i32 (x + d.toUInt32)) := by
      rw [List.getElem?_set_self hlt]
    have hboth := Yields.append (yields_move host store d hx) (yields_move host store e hx')
    rw [List.set_set, add_add_toUInt32] at hboth
    exact ⟨_, hboth, yields_move host store (e + d) hx⟩
  | addChanges v arg d e =>
    refine replaceable_of_change (Level.append (hchange v arg d) (hchange v arg e))
      (hchange v arg (e + d)) (fun _ _ hv => Everywhere.append (wedges_change hv) _)
      (fun _ _ _ hmiss => ⟨Everywhere.append hmiss.change _, hmiss.change⟩) ?_
    intro locals store x w hr
    have hboth := Yields.append (yields_change host d hr) (yields_change host e (hr.put _))
    rw [hr.put_put, add_add_toUInt32] at hboth
    exact ⟨_, hboth, yields_change host (e + d) hr⟩
  | idleMove v =>
    refine replaceable_of_move (hmove v 0) (fun _ _ => rfl) (fun _ _ => (moves_stepBy 0).wedges) ?_
    intro locals store x hx
    have hidle := yields_move host store 0 hx
    obtain ⟨hlt, hget⟩ := List.getElem?_eq_some_iff.mp hx
    rw [show x + (0 : Int32).toUInt32 = x from UInt32.add_zero x, ← hget,
      List.set_getElem_self] at hidle
    exact ⟨_, hidle, yields_nil host locals store⟩
  | idleChange v arg =>
    obtain ⟨w, hw⟩ := (hkept rfl).resolve_left not_false
    exact absurd (congrArg List.length hw) (by decide : 6 ≠ 4)
  | @clear v arg d hd =>
    refine replaceable_of_change (level_clearLoop v arg d) (fun _ _ => rfl)
      (fun _ _ => wedges_clearLoop) (fun _ _ _ hmiss => ⟨hmiss.clearLoop, hmiss.clear⟩) ?_
    intro locals store x w hr
    exact ⟨_, yields_clearLoop hr hd, yields_clear hr⟩

/-- A change by zero that is dropped has no effect where it does not fail. -/
theorem replaceable_idleChange (host : List HostCall) (v : UInt32) (arg : MemArg) :
    Replaceable host (Breaks host) (Group.change v arg 0).code [] where
  level := level_changeCode (moves_stepBy 0) v arg
  level' := fun _ _ => rfl
  effect locals store := by
    by_cases hv : ∃ x, locals[v.toNat]? = some (.i32 x)
    · obtain ⟨x, hx⟩ := hv
      rcases reads_or_misses store arg hx with hmiss | ⟨w, hr⟩
      · exact .inl fun after labels stack hne => .inr ⟨_, hmiss.change after labels stack hne⟩
      · have hidle := yields_change host 0 hr
        rw [show w + (0 : Int32).toUInt32 = w from UInt32.add_zero w, hr.put_self] at hidle
        exact .inr (.inr ⟨locals, store, rfl, hidle, yields_nil host locals store⟩)
    · have hwedges : Everywhere (Wedges host) (Group.change v arg 0).code locals store :=
        wedges_change fun x hx => hv ⟨x, hx⟩
      exact .inl fun after labels stack hne => .inl (hwedges after labels stack hne)

theorem Rule.replaceable (host : List HostCall) {a b : List Instr} (h : Rule a b) :
    Replaceable host (Breaks host) a b := by
  by_cases hkept : b = [] → ∃ v, a = (Group.move v 0).code
  · have hpermitted : Permitted False a b := ⟨h, fun hb => .inr (hkept hb)⟩
    exact (hpermitted.replaceable host).mono fun _ => .inl
  · cases h with
    | idleChange v arg => exact replaceable_idleChange host v arg
    | idleMove v => exact absurd (fun _ => ⟨v, rfl⟩) hkept
    | move | change | addMoves | addChanges | clear =>
      exact absurd (fun hnil => absurd hnil (List.cons_ne_nil _ _)) hkept

end TapeWasm.Peephole
