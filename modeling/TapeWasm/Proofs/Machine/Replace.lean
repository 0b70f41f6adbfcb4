import Mathlib.Data.List.Forall2
import TapeWasm.Proofs.Machine.Run
import TapeWasm.Proofs.Typing.Nesting

/-!
Replacing a piece of code by another. If the two pieces have the same effect wherever the first one
does not fail, then a body that does not fail does the same with either of them. If they also trap
alike, then so does the body. The proof runs the two bodies side by side.
-/
namespace TapeWasm.Wasm.Machine

def Fails (host : List HostCall) (m : Machine) : Prop :=
  Traps host m ∨ Sticks host m

/-- A run ends in the trap `t` and leaves the given store. -/
def TrapsWith (host : List HostCall) (t : Trap) (store : Store) (m : Machine) : Prop :=
  ∃ n r, run host n m = .trapped t r ∧ r.store = store

/-- A run gets stuck and leaves the store as it is. -/
def Wedges (host : List HostCall) (m : Machine) : Prop :=
  ∃ n r, run host n m = .stuck r ∧ r.store = m.store

/-- A run fails and leaves the store as it is. -/
def Breaks (host : List HostCall) (m : Machine) : Prop :=
  Wedges host m ∨ ∃ t, TrapsWith host t m.store m

/-- Machines with the same operands, variables and store. -/
structure Agree (m m' : Machine) : Prop where
  stack : m.stack = m'.stack
  locals : m.locals = m'.locals
  store : m.store = m'.store

/-- What a run of `m` does a run of `m'` does too, unless `m` fails. -/
structure Refines (host : List HostCall) (m m' : Machine) : Prop where
  fails : Fails host m' → Fails host m
  finishes : ∀ r, Finishes host m r → ∃ r', Finishes host m' r' ∧ Agree r r'
  finished : ∀ r', Finishes host m' r' → Fails host m ∨ ∃ r, Finishes host m r ∧ Agree r r'

theorem Agree.refl (m : Machine) : Agree m m :=
  ⟨rfl, rfl, rfl⟩

theorem Agree.trans {m₁ m₂ m₃ : Machine} (h : Agree m₁ m₂) (h' : Agree m₂ m₃) : Agree m₁ m₃ :=
  ⟨h.stack.trans h'.stack, h.locals.trans h'.locals, h.store.trans h'.store⟩

theorem Refines.refl (host : List HostCall) (m : Machine) : Refines host m m where
  fails h := h
  finishes r hr := ⟨r, hr, .refl r⟩
  finished r hr := .inr ⟨r, hr, .refl r⟩

theorem Refines.trans {host : List HostCall} {m₁ m₂ m₃ : Machine} (h : Refines host m₁ m₂)
    (h' : Refines host m₂ m₃) : Refines host m₁ m₃ where
  fails hf := h.fails (h'.fails hf)
  finishes r hr := by
    obtain ⟨r₂, hr₂, hagree⟩ := h.finishes r hr
    obtain ⟨r₃, hr₃, hagree'⟩ := h'.finishes r₂ hr₂
    exact ⟨r₃, hr₃, hagree.trans hagree'⟩
  finished r₃ hr₃ := by
    rcases h'.finished r₃ hr₃ with hf | ⟨r₂, hr₂, hagree'⟩
    · exact .inl (h.fails hf)
    · rcases h.finished r₂ hr₂ with hf | ⟨r, hr, hagree⟩
      · exact .inl hf
      · exact .inr ⟨r, hr, hagree.trans hagree'⟩

/-- Wherever a piece of code stands, running it has the given effect. -/
def Yields (host : List HostCall) (a : List Instr) (locals : List Value) (store : Store)
    (locals' : List Value) (store' : Store) : Prop :=
  ∀ after labels stack, labels ≠ [] →
    Reaches host ⟨a ++ after, labels, stack, locals, store⟩
      ⟨after, labels, stack, locals', store'⟩

/-- Wherever a piece of code stands, `P` holds of the machine that comes to it. -/
def Everywhere (P : Machine → Prop) (a : List Instr) (locals : List Value) (store : Store) : Prop :=
  ∀ after labels stack, labels ≠ [] → P ⟨a ++ after, labels, stack, locals, store⟩

/-- The piece of code `b` may stand for `a`, unless `E` holds where `a` begins. Neither of them puts
anything out. -/
structure Replaceable (host : List HostCall) (E : Machine → Prop) (a b : List Instr) : Prop where
  level : Level a
  level' : Level b
  effect : ∀ locals store, Everywhere E a locals store ∨
    (∃ t, Everywhere (TrapsWith host t store) a locals store ∧
      Everywhere (TrapsWith host t store) b locals store) ∨
    ∃ locals' store', store'.output = store.output ∧
      Yields host a locals store locals' store' ∧ Yields host b locals store locals' store'

theorem Replaceable.mono {host : List HostCall} {E E' : Machine → Prop} {a b : List Instr}
    (h : Replaceable host E a b) (hE : ∀ m, E m → E' m) : Replaceable host E' a b where
  level := h.level
  level' := h.level'
  effect locals store := (h.effect locals store).imp_left
    fun he after labels stack hne => hE _ (he after labels stack hne)

/-- Code that is the same but for one place where `b` stands for `a`. -/
inductive SimilarCode (a b : List Instr) : List Instr → List Instr → Prop
  | same (code : List Instr) : SimilarCode a b code code
  | differ (before after : List Instr) :
      SimilarCode a b (before ++ (a ++ after)) (before ++ (b ++ after))

inductive SimilarLabel (a b : List Instr) : Label → Label → Prop
  | forward (arity : Nat) (below : List Value) :
      SimilarLabel a b (.forward arity below) (.forward arity below)
  | back (below : List Value) {body body' : List Instr} (h : SimilarCode a b body body') :
      SimilarLabel a b (.back below body) (.back below body')

/-- Machines in an open block that differ only by the piece of code. -/
inductive Similar (a b : List Instr) : Machine → Machine → Prop
  | mk {code code' : List Instr} {labels labels' : List Label} (stack locals : List Value)
      (store : Store) (hcode : SimilarCode a b code code')
      (hlabels : List.Forall₂ (SimilarLabel a b) labels labels') (hne : labels ≠ []) :
      Similar a b ⟨code, labels, stack, locals, store⟩ ⟨code', labels', stack, locals, store⟩

/-- The same kind of step, to similar machines or to the same end. -/
inductive SimilarStep (a b : List Instr) : Step → Step → Prop
  | next {m m' : Machine} (h : Similar a b m m') : SimilarStep a b (.next m) (.next m')
  | finished {m m' : Machine} (h : Agree m m') : SimilarStep a b (.finished m) (.finished m')
  | trapped (t : Trap) {m m' : Machine} (h : m.store = m'.store) :
      SimilarStep a b (.trapped t m) (.trapped t m')
  | stuck (m m' : Machine) : SimilarStep a b (.stuck m) (.stuck m')

section Similar

variable {host : List HostCall} {a b : List Instr} {code code' : List Instr}
  {labels labels' : List Label} {stack locals : List Value} {store : Store}

theorem afterEnd_similar (ha : Level a) (hb : Level b) (h : SimilarCode a b code code')
    (depth : Nat) : Option.Rel (SimilarCode a b) (afterEnd depth code) (afterEnd depth code') := by
  have hsame (r : Option (List Instr)) : Option.Rel (SimilarCode a b) r r := by
    cases r with
    | none => exact .none
    | some code => exact .some (.same code)
  cases h with
  | same => exact hsame _
  | differ before after =>
    induction before generalizing depth with
    | nil =>
      rw [List.nil_append, List.nil_append, ha, hb]
      exact hsame _
    | cons i is ih =>
      by_cases hop : i.Opens
      · rw [List.cons_append, List.cons_append, afterEnd_cons_of_opens hop,
          afterEnd_cons_of_opens hop]
        exact ih _
      by_cases hstop : i.op = Op.stop
      · cases depth with
        | zero =>
          rw [List.cons_append, List.cons_append, afterEnd_zero_cons_of_stop hstop,
            afterEnd_zero_cons_of_stop hstop]
          exact .some (.differ is after)
        | succ depth =>
          rw [List.cons_append, List.cons_append, afterEnd_succ_cons_of_stop hstop,
            afterEnd_succ_cons_of_stop hstop]
          exact ih _
      · rw [List.cons_append, List.cons_append, afterEnd_cons_of_stays hop hstop,
          afterEnd_cons_of_stays hop hstop]
        exact ih _

theorem resume_similar (hcode : SimilarCode a b code code')
    (hlabels : List.Forall₂ (SimilarLabel a b) labels labels') :
    SimilarStep a b (resume ⟨code, labels, stack, locals, store⟩)
      (resume ⟨code', labels', stack, locals, store⟩) := by
  cases hlabels with
  | nil => exact .finished ⟨rfl, rfl, rfl⟩
  | cons hl hlabels => exact .next (.mk _ _ _ hcode (.cons hl hlabels) (List.cons_ne_nil _ _))

theorem branch_similar (ha : Level a) (hb : Level b) (hcode : SimilarCode a b code code')
    (hlabels : List.Forall₂ (SimilarLabel a b) labels labels') (depth : Nat) :
    SimilarStep a b (branch ⟨code, labels, stack, locals, store⟩ depth)
      (branch ⟨code', labels', stack, locals, store⟩ depth) := by
  have hdrop := List.forall₂_drop depth hlabels
  unfold branch
  simp only
  generalize labels.drop depth = target, labels'.drop depth = target' at hdrop ⊢
  cases hdrop with
  | nil => exact .stuck _ _
  | cons hl houter =>
    cases hl with
    | back below hbody =>
      exact .next (.mk _ _ _ hbody (.cons (.back below hbody) houter) (List.cons_ne_nil _ _))
    | forward arity below =>
      have hafter := afterEnd_similar ha hb hcode depth
      simp only
      generalize afterEnd depth code = rest, afterEnd depth code' = rest' at hafter ⊢
      cases hafter with
      | none => exact .stuck _ _
      | some hrest =>
        simp only
        split
        · exact .stuck _ _
        · exact resume_similar hrest houter

theorem close_similar (hcode : SimilarCode a b code code')
    (hlabels : List.Forall₂ (SimilarLabel a b) labels labels') :
    SimilarStep a b (close ⟨code, labels, stack, locals, store⟩)
      (close ⟨code', labels', stack, locals, store⟩) := by
  cases hlabels with
  | nil => exact .stuck _ _
  | cons hl houter =>
    cases hl with
    | forward arity below => exact resume_similar hcode houter
    | back below hbody => exact resume_similar hcode houter

theorem enter_similar {l l' : List Value → Label}
    (hl : ∀ below, SimilarLabel a b (l below) (l' below)) (hcode : SimilarCode a b code code')
    (hlabels : List.Forall₂ (SimilarLabel a b) labels labels') (type : Int32) :
    SimilarStep a b (enter ⟨code, labels, stack, locals, store⟩ type l)
      (enter ⟨code', labels', stack, locals, store⟩ type l') := by
  unfold enter
  split
  · exact .next (.mk _ _ _ hcode (.cons (hl stack) hlabels) (List.cons_ne_nil _ _))
  · exact .stuck _ _

theorem skip_similar (ha : Level a) (hb : Level b) (hcode : SimilarCode a b code code')
    (hlabels : List.Forall₂ (SimilarLabel a b) labels labels') (hne : labels ≠ []) (type : Int32) :
    SimilarStep a b (skip ⟨code, labels, stack, locals, store⟩ type)
      (skip ⟨code', labels', stack, locals, store⟩ type) := by
  have hafter := afterEnd_similar ha hb hcode 0
  unfold skip
  simp only
  generalize afterEnd 0 code = rest, afterEnd 0 code' = rest' at hafter ⊢
  split
  · cases hafter with
    | none => exact .stuck _ _
    | some hrest => exact .next (.mk _ _ _ hrest hlabels hne)
  · exact .stuck _ _

section Perform

variable (hcode : SimilarCode a b code code')
  (hlabels : List.Forall₂ (SimilarLabel a b) labels labels') (hne : labels ≠ [])

include hcode hlabels hne

theorem next_similar (stack locals : List Value) (store : Store) :
    SimilarStep a b (.next ⟨code, labels, stack, locals, store⟩)
      (.next ⟨code', labels', stack, locals, store⟩) :=
  .next (.mk _ _ _ hcode hlabels hne)

theorem unary_similar (f : UInt32 → UInt32) :
    SimilarStep a b (unary ⟨code, labels, stack, locals, store⟩ f)
      (unary ⟨code', labels', stack, locals, store⟩ f) := by
  unfold unary
  simp only
  split
  · exact next_similar hcode hlabels hne _ _ _
  · exact .stuck _ _

theorem binary_similar (f : UInt32 → UInt32 → UInt32) :
    SimilarStep a b (binary ⟨code, labels, stack, locals, store⟩ f)
      (binary ⟨code', labels', stack, locals, store⟩ f) := by
  unfold binary
  simp only
  split
  · exact next_similar hcode hlabels hne _ _ _
  · exact .stuck _ _

theorem storeWord_similar (arg : MemArg) :
    SimilarStep a b (storeWord ⟨code, labels, stack, locals, store⟩ arg)
      (storeWord ⟨code', labels', stack, locals, store⟩ arg) := by
  unfold storeWord
  split
  · rename_i heq
    cases heq
    simp only
    split
    · exact next_similar hcode hlabels hne _ _ _
    · exact .trapped _ rfl
  · rename_i hno
    split
    · rename_i heq
      cases heq
      exact absurd rfl (hno _ _ _ _ _ _ _ _ _)
    · exact .stuck _ _

theorem storeByte_similar (arg : MemArg) :
    SimilarStep a b (storeByte ⟨code, labels, stack, locals, store⟩ arg)
      (storeByte ⟨code', labels', stack, locals, store⟩ arg) := by
  unfold storeByte
  split
  · rename_i heq
    cases heq
    simp only
    split
    · exact next_similar hcode hlabels hne _ _ _
    · exact .trapped _ rfl
  · rename_i hno
    split
    · rename_i heq
      cases heq
      exact absurd rfl (hno _ _ _ _ _ _ _ _ _)
    · exact .stuck _ _

theorem callHost_similar (call : HostCall) :
    SimilarStep a b (callHost ⟨code, labels, stack, locals, store⟩ call)
      (callHost ⟨code', labels', stack, locals, store⟩ call) := by
  unfold callHost
  split
  · rename_i heq
    cases heq
    exact next_similar hcode hlabels hne _ _ _
  · rename_i hno
    split
    · rename_i heq
      cases heq
      exact absurd rfl (hno _ _ _ _ _ _ _ _ _)
    · exact .stuck _ _

/-- An instruction does the same to similar machines. -/
theorem perform_similar (ha : Level a) (hb : Level b) (i : Instr) :
    SimilarStep a b (perform host i ⟨code, labels, stack, locals, store⟩)
      (perform host i ⟨code', labels', stack, locals, store⟩) := by
  have hnext := next_similar hcode hlabels hne
  unfold perform
  split
  case h_1 =>
    unfold getLocal
    simp only
    split
    · exact hnext _ _ _
    · exact .stuck _ _
  case h_2 =>
    unfold setLocal
    simp only
    split
    · split
      · exact hnext _ _ _
      · exact .stuck _ _
    · exact .stuck _ _
  case h_3 => exact hnext _ _ _
  case h_4 =>
    unfold load
    simp only
    split
    · split
      · exact hnext _ _ _
      · exact .trapped _ rfl
    · exact .stuck _ _
  case h_5 => exact storeWord_similar hcode hlabels hne _
  case h_6 | h_7 | h_9 | h_10 => exact binary_similar hcode hlabels hne _
  case h_8 => exact unary_similar hcode hlabels hne _
  case h_11 =>
    simp only
    split
    · split
      · exact hnext _ _ _
      · exact branch_similar ha hb hcode hlabels _
    · exact .stuck _ _
  case h_12 => exact enter_similar (fun below => .forward 0 below) hcode hlabels _
  case h_13 => exact enter_similar (fun below => .back below hcode) hcode hlabels _
  case h_14 =>
    simp only
    split
    · split
      · exact skip_similar ha hb hcode hlabels hne _
      · exact enter_similar (fun below => .forward 0 below) hcode hlabels _
    · exact .stuck _ _
  case h_15 => exact close_similar hcode hlabels
  case h_16 => exact storeByte_similar hcode hlabels hne _
  case h_17 =>
    split
    · exact callHost_similar hcode hlabels hne _
    · exact .stuck _ _
  case h_18 =>
    simp only
    split
    · exact hnext _ _ _
    · exact .stuck _ _
  case h_19 => exact hnext _ _ _
  case h_20 => exact .trapped _ rfl
  case h_21 => exact .stuck _ _

end Perform

theorem step_similar (ha : Level a) (hb : Level b)
    (hlabels : List.Forall₂ (SimilarLabel a b) labels labels') (hne : labels ≠ []) :
    SimilarStep a b (step host ⟨code, labels, stack, locals, store⟩)
      (step host ⟨code, labels', stack, locals, store⟩) := by
  cases code with
  | nil => exact .stuck _ _
  | cons i is => exact perform_similar (.same is) hlabels hne ha hb i

section Runs

variable {E : Machine → Prop} {m m' r : Machine} {t : Trap}

/-- Similar machines trap alike or come to where their next steps are similar, unless `E` holds.
Until then nothing is put out. -/
theorem Similar.sync (hr : Replaceable host E a b) (h : Similar a b m m') :
    E m ∨ (∃ t, TrapsWith host t m.store m ∧ TrapsWith host t m.store m') ∨
      ∃ m₁ m₁', Reaches host m m₁ ∧ Reaches host m' m₁' ∧
        m₁.store.output = m.store.output ∧ SimilarStep a b (step host m₁) (step host m₁') := by
  obtain @⟨_, _, labels, labels', stack, locals, store, hcode, hlabels, hne⟩ := h
  cases hcode with
  | same code =>
    exact .inr (.inr ⟨_, _, .refl, .refl, rfl, step_similar hr.level hr.level' hlabels hne⟩)
  | differ before after =>
    cases before with
    | cons i is =>
      exact .inr (.inr ⟨_, _, .refl, .refl, rfl,
        perform_similar (.differ is after) hlabels hne hr.level hr.level' i⟩)
    | nil =>
      have hne' : labels' ≠ [] := by
        rintro rfl
        exact hne (List.forall₂_nil_right_iff.mp hlabels)
      rcases hr.effect locals store with he | ⟨t, htrap, htrap'⟩ |
        ⟨locals', store', houtput, hyields, hyields'⟩
      · exact .inl (he after _ stack hne)
      · exact .inr (.inl ⟨t, htrap after _ stack hne, htrap' after _ stack hne'⟩)
      · exact .inr (.inr ⟨_, _, hyields after _ stack hne, hyields' after _ stack hne', houtput,
          step_similar hr.level hr.level' hlabels hne⟩)

theorem sticks_of_reaches (h : Reaches host m m') (hs : Sticks host m') : Sticks host m := by
  obtain ⟨n, r, hn⟩ := hs
  obtain ⟨k, hk⟩ := (Reaches.ends_iff h (o := .stuck r) trivial).mpr ⟨n, hn⟩
  exact ⟨k, r, hk⟩

theorem wedges_of_reaches (h : Reaches host m m') (hstore : m'.store = m.store)
    (hw : Wedges host m') : Wedges host m := by
  obtain ⟨n, r, hn, hr⟩ := hw
  obtain ⟨k, hk⟩ := (Reaches.ends_iff h (o := .stuck r) trivial).mpr ⟨n, hn⟩
  exact ⟨k, r, hk, hr.trans hstore⟩

theorem Wedges.sticks (h : Wedges host m) : Sticks host m := by
  obtain ⟨n, r, hn, -⟩ := h
  exact ⟨n, r, hn⟩

theorem trapsWith_of_step (h : step host m = .trapped t r) : TrapsWith host t r.store m :=
  ⟨1, r, by rw [run, h], rfl⟩

theorem trapsWith_of_reaches (h : Reaches host m m') (ht : TrapsWith host t store m') :
    TrapsWith host t store m := by
  obtain ⟨n, r, hn, hstore⟩ := ht
  obtain ⟨k, hk⟩ := (Reaches.ends_iff h (o := .trapped t r) trivial).mpr ⟨n, hn⟩
  exact ⟨k, r, hk, hstore⟩

theorem TrapsWith.traps (h : TrapsWith host t store m) : Traps host m := by
  obtain ⟨n, r, hn, -⟩ := h
  exact ⟨n, t, r, hn⟩

theorem Breaks.fails (h : Breaks host m) : Fails host m := by
  rcases h with hw | ⟨t, ht⟩
  · exact .inr hw.sticks
  · exact .inl ht.traps

theorem fails_of_reaches (h : Reaches host m m') (hf : Fails host m') : Fails host m := by
  rcases hf with ⟨n, t, r, hn⟩ | hs
  · exact .inl (trapsWith_of_reaches h ⟨n, r, hn, rfl⟩).traps
  · exact .inr (sticks_of_reaches h hs)

/-- Ends of runs that are the same but for where the machine stands in its code. -/
inductive SameEnd : Outcome → Outcome → Prop
  | finished {m m' : Machine} (h : Agree m m') : SameEnd (.finished m) (.finished m')
  | trapped (t : Trap) {m m' : Machine} (h : m.store = m'.store) :
      SameEnd (.trapped t m) (.trapped t m')
  | stuck (m m' : Machine) : SameEnd (.stuck m) (.stuck m')

theorem ended_of_steps {m₁ m₂ : Machine} (hreach : Reaches host m m₁) (hnext : Next host m₁ m₂)
    {n : Nat} (h : (run host (n + 1) m).Ended) : (run host n m₂).Ended := by
  obtain ⟨k, hk⟩ := hreach.run_eq
  rw [← run_succ_of_next hnext, ← hk, run_add_of_ended h rfl]
  exact h

/-- If one of two similar machines comes to an end so does the other, and to the same one, unless
`E` holds of the first, where `E` looks ahead. -/
theorem Similar.sameEnd (hr : Replaceable host E a b)
    (hE : ∀ m m', Reaches host m m' → E m' → E m) {n : Nat} (h : Similar a b m m')
    (hn : (run host n m).Ended ∨ (run host n m').Ended) :
    E m ∨ ∃ k k', SameEnd (run host k m) (run host k' m') := by
  induction n generalizing m m' with
  | zero => exact hn.elim False.elim False.elim
  | succ n ih =>
    rcases h.sync hr with he | ⟨t, ⟨k, r, hk, hstore⟩, k', r', hk', hstore'⟩ |
      ⟨m₁, m₁', hreach, hreach', -, hstep⟩
    · exact .inl he
    · refine .inr ⟨k, k', ?_⟩
      rw [hk, hk']
      exact .trapped t (hstore.trans hstore'.symm)
    obtain ⟨k, hk⟩ := hreach.run_eq
    obtain ⟨k', hk'⟩ := hreach'.run_eq
    generalize hs : step host m₁ = s, hs' : step host m₁' = s' at hstep
    cases hstep with
    | next hsim =>
      have hn₂ := hn.imp (ended_of_steps hreach hs) (ended_of_steps hreach' hs')
      rcases ih hsim hn₂ with he | ⟨j, j', hend⟩
      · exact .inl (hE _ _ (hreach.tail hs) he)
      · refine .inr ⟨j + 1 + k, j' + 1 + k', ?_⟩
        rwa [hk, hk', run_succ_of_next hs, run_succ_of_next hs']
    | finished hagree =>
      refine .inr ⟨1 + k, 1 + k', ?_⟩
      rw [hk, hk', run, run, hs, hs']
      exact .finished hagree
    | trapped t hstore =>
      refine .inr ⟨1 + k, 1 + k', ?_⟩
      rw [hk, hk', run, run, hs, hs']
      exact .trapped t hstore
    | stuck r r' =>
      refine .inr ⟨1 + k, 1 + k', ?_⟩
      rw [hk, hk', run, run, hs, hs']
      exact .stuck r r'

theorem SameEnd.ended {o o' : Outcome} (h : SameEnd o o') : o.Ended ∧ o'.Ended := by
  cases h <;> exact ⟨trivial, trivial⟩

theorem Finishes.not_fails (h : Finishes host m r) : ¬ Fails host m := by
  obtain ⟨n, hn⟩ := h
  have hfin : (Outcome.finished r).Ended := trivial
  rintro (⟨k, t, r', hk⟩ | ⟨k, r', hk⟩)
  · have htrap : (Outcome.trapped t r').Ended := trivial
    exact Outcome.noConfusion (run_ended_unique hfin htrap hn hk)
  · have hstuck : (Outcome.stuck r').Ended := trivial
    exact Outcome.noConfusion (run_ended_unique hfin hstuck hn hk)

theorem TrapsWith.not_sticks (h : TrapsWith host t store m) : ¬ Sticks host m := by
  obtain ⟨n, r, hn, -⟩ := h
  have htrap : (Outcome.trapped t r).Ended := trivial
  rintro ⟨k, r', hk⟩
  have hstuck : (Outcome.stuck r').Ended := trivial
  exact Outcome.noConfusion (run_ended_unique htrap hstuck hn hk)

theorem TrapsWith.unique {t' : Trap} {store' : Store} (h : TrapsWith host t store m)
    (h' : TrapsWith host t' store' m) : t = t' ∧ store = store' := by
  obtain ⟨n, r, hn, rfl⟩ := h
  obtain ⟨n', r', hn', rfl⟩ := h'
  have htrap : (Outcome.trapped t r).Ended := trivial
  have htrap' : (Outcome.trapped t' r').Ended := trivial
  obtain ⟨rfl, rfl⟩ := Outcome.trapped.inj (run_ended_unique htrap htrap' hn hn')
  exact ⟨rfl, rfl⟩

/-- A machine is refined by a similar one. -/
theorem Similar.refines (hr : Replaceable host (Fails host) a b) (h : Similar a b m m') :
    Refines host m m' where
  fails hf := by
    have hbad : ∃ n, (run host n m').Ended ∧ ∀ r, run host n m' ≠ .finished r := by
      rcases hf with ⟨n, t, r, hn⟩ | ⟨n, r, hn⟩
      · exact ⟨n, hn ▸ trivial, by simp [hn]⟩
      · exact ⟨n, hn ▸ trivial, by simp [hn]⟩
    obtain ⟨n, hn, hbad⟩ := hbad
    rcases h.sameEnd hr (fun _ _ => fails_of_reaches) (.inr hn) with hf | ⟨k, k', hend⟩
    · exact hf
    rw [run_ended_unique hend.ended.2 hn rfl rfl] at hend
    generalize ho : run host k m = o, ho' : run host n m' = o' at hend
    cases hend with
    | finished hagree => exact absurd ho' (hbad _)
    | trapped t hstore => exact .inl ⟨k, t, _, ho⟩
    | stuck r r' => exact .inr ⟨k, r, ho⟩
  finishes r hfin := by
    obtain ⟨n, hn⟩ := hfin
    have ho : (Outcome.finished r).Ended := trivial
    rcases h.sameEnd hr (fun _ _ => fails_of_reaches) (.inl (hn ▸ ho)) with hf | ⟨k, k', hend⟩
    · exact absurd hf (Finishes.not_fails ⟨n, hn⟩)
    rw [run_ended_unique hend.ended.1 ho rfl hn] at hend
    generalize ho' : run host k' m' = o' at hend
    cases hend with
    | finished hagree => exact ⟨_, ⟨k', ho'⟩, hagree⟩
  finished r' hfin := by
    obtain ⟨n, hn⟩ := hfin
    have ho : (Outcome.finished r').Ended := trivial
    rcases h.sameEnd hr (fun _ _ => fails_of_reaches) (.inr (hn ▸ ho)) with hf | ⟨k, k', hend⟩
    · exact .inl hf
    rw [run_ended_unique hend.ended.2 ho rfl hn] at hend
    generalize hk : run host k m = o at hend
    cases hend with
    | finished hagree => exact .inr ⟨_, ⟨k, hk⟩, hagree⟩

/-- The trap of a machine is that of a similar one. -/
theorem Similar.trapsWith (hr : Replaceable host (Wedges host) a b) (h : Similar a b m m')
    (ht : TrapsWith host t store m) : TrapsWith host t store m' := by
  obtain ⟨n, r, hn, hstore⟩ := ht
  have ho : (Outcome.trapped t r).Ended := trivial
  have hsticks := hr.mono fun _ => Wedges.sticks
  rcases h.sameEnd hsticks (fun _ _ => sticks_of_reaches) (.inl (hn ▸ ho)) with hs | ⟨k, k', hend⟩
  · exact absurd hs (TrapsWith.not_sticks ⟨n, r, hn, hstore⟩)
  rw [run_ended_unique hend.ended.1 ho rfl hn] at hend
  generalize ho' : run host k' m' = o' at hend
  cases hend with
  | trapped _ hsame => exact ⟨k', _, ho', hsame.symm.trans hstore⟩

end Runs

theorem similar_start (before after : List Instr) (arity : Nat) :
    Similar a b (start (before ++ a ++ after) arity locals store)
      (start (before ++ b ++ after) arity locals store) := by
  rw [List.append_assoc, List.append_assoc]
  exact .mk _ _ _ (.differ before after) (.cons (.forward arity []) .nil) (List.cons_ne_nil _ _)

/-- Replacing a piece of a body keeps what the body does. -/
theorem Replaceable.refines (hr : Replaceable host (Breaks host) a b) (before after : List Instr)
    (arity : Nat) :
    Refines host (start (before ++ a ++ after) arity locals store)
      (start (before ++ b ++ after) arity locals store) :=
  (similar_start before after arity).refines (hr.mono fun _ => Breaks.fails)

end Similar
end TapeWasm.Wasm.Machine
