import TapeWasm.Proofs.Peephole.Reading

/-!
How many instructions condensing leaves. A group stands for as many instructions as it was read
from, and putting it on the stack either leaves the stack as it was below it or takes instructions
away. So no list grows, and a list that stays as it is holds nothing more to condense.
-/
namespace TapeWasm.Peephole

open Wasm

def stackSize (stack : List Group) : Nat :=
  (stackCode stack).length

@[simp]
theorem stackSize_nil : stackSize [] = 0 := rfl

@[simp]
theorem stackSize_cons (g : Group) (stack : List Group) :
    stackSize (g :: stack) = stackSize stack + g.code.length := by
  simp [stackSize]

@[simp]
theorem length_code_move (v : UInt32) (d : Int32) : (Group.move v d).code.length = 4 := rfl

@[simp]
theorem length_code_change (v : UInt32) (arg : MemArg) (d : Int32) :
    (Group.change v arg d).code.length = 6 := rfl

theorem length_code_pos (g : Group) : 0 < g.code.length := by
  cases g <;> exact Nat.succ_pos _

theorem length_code_merged {g top sum : Group} (h : merged? g top = some sum) :
    sum.code.length = g.code.length ∧ top.code.length = g.code.length := by
  unfold merged? at h
  split at h
  · split at h
    · obtain rfl := Option.some.inj h
      simp
    · cases h
  · split at h
    · obtain rfl := Option.some.inj h
      simp
    · cases h
  · cases h

/-- A group that merges with the one on top takes instructions away. -/
theorem stackSize_settle_lt {g top sum : Group} (h : merged? g top = some sum)
    (below : List Group) :
    stackSize (settle g (top :: below)).2 +
        ((settle g (top :: below)).1.map fun g => g.code.length).getD 0 <
      stackSize (top :: below) + g.code.length := by
  induction below generalizing g top sum with
  | nil =>
    obtain ⟨hsum, htop⟩ := length_code_merged h
    have hpos := length_code_pos g
    simp only [settle, h]
    split <;> simp <;> omega
  | cons next below ih =>
    obtain ⟨hsum, htop⟩ := length_code_merged h
    have hpos := length_code_pos g
    unfold settle
    simp only [h]
    split
    · simp
      omega
    · cases hm : merged? sum next with
      | none =>
        simp [settle, hm]
        omega
      | some sum' =>
        have hlt := ih hm
        simp only [stackSize_cons] at hlt ⊢
        omega

theorem settle_of_not_merged {g top : Group} (h : merged? g top = none) (below : List Group) :
    settle g (top :: below) = (some g, top :: below) := by
  simp only [settle, h]

/-- Either a group merges with the one on top, or it is laid on the stack. -/
theorem settle_cases (g : Group) (stack : List Group) :
    settle g stack = (some g, stack) ∨
      ∃ top below sum, stack = top :: below ∧ merged? g top = some sum := by
  cases stack with
  | nil => exact .inl rfl
  | cons top below =>
    cases hm : merged? g top with
    | none => exact .inl (settle_of_not_merged hm below)
    | some sum => exact .inr ⟨top, below, sum, rfl, hm⟩

theorem collapseClearing_loopGroups {d : Int32} (hd : d % 2 ≠ 0) (v : UInt32) (arg : MemArg)
    (outer inner ne eqz : Immediate) (below : List Group) :
    collapseClearing (loopGroups v arg d outer inner ne eqz ++ below) =
      .clear v arg :: below := by
  simp [collapseClearing, loopGroups, isRaw, isCellRead, hd]

theorem stackSize_loopGroups (v : UInt32) (arg : MemArg) (d : Int32)
    (outer inner ne eqz : Immediate) (below : List Group) :
    stackSize (loopGroups v arg d outer inner ne eqz ++ below) = stackSize below + 19 := by
  simp [loopGroups, Group.code]

theorem collapseClearing_eq_or_lt (stack : List Group) :
    collapseClearing stack = stack ∨ stackSize (collapseClearing stack) < stackSize stack := by
  obtain hsame | ⟨v, arg, d, outer, inner, ne, eqz, below, -, hstack, hclear⟩ :=
    collapseClearing_cases stack
  · exact .inl hsame
  · right
    rw [hclear, hstack, stackSize_loopGroups, stackSize_cons]
    exact Nat.add_lt_add_left (by simp [Group.code]) _

theorem push_of_idle {g : Group} {stack : List Group} (hs : settle g stack = (some g, stack))
    (h : isIdle g = true) : push stack g = stack := by
  simp only [push, hs, h, if_true]

theorem push_of_settle {g : Group} {stack : List Group} (hs : settle g stack = (some g, stack))
    (hidle : isIdle g = false) (hstop : isRaw Op.stop g = none) : push stack g = g :: stack := by
  simp [push, hs, hidle, hstop]

/-- Merging with the group on top takes instructions away. -/
theorem stackSize_push_merged {g top sum : Group} (h : merged? g top = some sum)
    (below : List Group) :
    stackSize (push (top :: below) g) < stackSize (top :: below) + g.code.length := by
  have hlt := stackSize_settle_lt h below
  unfold push
  split
  · rename_i below' hs
    simpa [hs] using hlt
  · rename_i g' below' hs
    rw [hs] at hlt
    have hlaid : stackSize (g' :: below') < stackSize (top :: below) + g.code.length := by
      simpa using hlt
    split
    · exact lt_of_le_of_lt (by simp) hlaid
    · split
      · obtain hsame | hcollapsed := collapseClearing_eq_or_lt (g' :: below')
        · rwa [hsame]
        · exact hcollapsed.trans hlaid
      · exact hlaid

theorem stackSize_push_idle {g : Group} (h : isIdle g = true) (stack : List Group) :
    stackSize (push stack g) < stackSize stack + g.code.length := by
  obtain hs | ⟨top, below, sum, rfl, hm⟩ := settle_cases g stack
  · rw [push_of_idle hs h]
    exact Nat.lt_add_of_pos_right (length_code_pos g)
  · exact stackSize_push_merged hm below

/-- A group is laid on the stack, or instructions go away. -/
theorem push_cases (stack : List Group) (g : Group) :
    push stack g = g :: stack ∨ stackSize (push stack g) < stackSize stack + g.code.length := by
  obtain hs | ⟨top, below, sum, rfl, hm⟩ := settle_cases g stack
  · by_cases hidle : isIdle g = true
    · exact .inr (stackSize_push_idle hidle stack)
    · by_cases hstop : (isRaw Op.stop g).isSome
      · have hpush : push stack g = collapseClearing (g :: stack) := by
          simp [push, hs, hidle, hstop]
        rw [hpush, ← stackSize_cons]
        exact collapseClearing_eq_or_lt (g :: stack)
      · exact .inl (push_of_settle hs (by simpa using hidle) (by simpa using hstop))
  · exact .inr (stackSize_push_merged hm below)

theorem stackSize_push_le (stack : List Group) (g : Group) :
    stackSize (push stack g) ≤ stackSize stack + g.code.length := by
  obtain h | h := push_cases stack g
  · rw [h, stackSize_cons]
  · exact h.le

/-- No list grows: neither the groups on the stack nor the instructions still to be read do. -/
theorem stackSize_groupFrom_le (skip : Nat) (code : List Instr) (stack : List Group) :
    stackSize (groupFrom skip code stack) ≤ stackSize stack + (code.length - skip) := by
  induction code generalizing skip stack with
  | nil => simp [groupFrom]
  | cons i is ih =>
    cases skip with
    | succ skip => simpa [groupFrom] using ih skip stack
    | zero =>
      have hread := readAs_groupAt i is
      have hpush := stackSize_push_le stack (groupAt i is).1
      have hrest := ih (groupAt i is).2 (push stack (groupAt i is).1)
      have hlength := hread.length_code
      have hle := hread.le_length
      simp only [groupFrom, List.length_cons]
      omega

theorem length_condense (code : List Instr) :
    (condense code).length = stackSize (groupFrom 0 code []) := rfl

theorem length_condense_le_length (code : List Instr) :
    (condense code).length ≤ code.length := by
  have h := stackSize_groupFrom_le 0 code []
  simpa [length_condense] using h

/-- What is read before such code is read on its own. -/
theorem groupFrom_append_of_starts {code : List Instr} (h : Starts code) (before : List Instr)
    {skip : Nat} (hskip : skip ≤ before.length) (stack : List Group) :
    ∃ stack', groupFrom skip (before ++ code) stack = groupFrom 0 code stack' ∧
      stackSize stack' ≤ stackSize stack + (before.length - skip) := by
  induction before generalizing skip stack with
  | nil =>
    obtain rfl : skip = 0 := by simpa using hskip
    exact ⟨stack, rfl, by simp⟩
  | cons i before ih =>
    cases skip with
    | succ skip =>
      obtain ⟨stack', hread, hsize⟩ := ih (Nat.le_of_succ_le_succ hskip) stack
      exact ⟨stack', hread, by simpa using hsize⟩
    | zero =>
      have hle := h.le_length i before
      have hpush := stackSize_push_le stack (groupAt i (before ++ code)).1
      have hlength := (readAs_groupAt i (before ++ code)).length_code
      obtain ⟨stack', hread, hsize⟩ := ih hle (push stack (groupAt i (before ++ code)).1)
      refine ⟨stack', hread, hsize.trans ?_⟩
      simp only [List.length_cons]
      omega

/-- Code that is read as groups which take instructions away, whatever is on the stack. -/
structure Shrinks (code : List Instr) (groups : List Group) : Prop where
  starts : ∀ rest, Starts (code ++ rest)
  splits : Splits code groups
  lt : ∀ stack, stackSize (groups.foldl push stack) < stackSize stack + code.length

/-- A list that holds such code does not stay as it is. -/
theorem Shrinks.condense_ne {piece code : List Instr} {groups : List Group}
    (h : Shrinks piece groups) (hin : piece <:+: code) : condense code ≠ code := by
  obtain ⟨before, after, rfl⟩ := hin
  intro hsame
  obtain ⟨stack, hbefore, hsize⟩ :=
    groupFrom_append_of_starts (h.starts after) before (Nat.zero_le _) []
  have hpiece := h.lt stack
  have hafter := stackSize_groupFrom_le 0 after (groups.foldl push stack)
  have hlength := congrArg List.length hsame
  rw [length_condense, List.append_assoc, hbefore, h.splits] at hlength
  simp only [List.length_append] at hlength
  simp only [stackSize_nil] at hsize
  omega

/-! What is left to condense. -/

theorem push_raw {i : Instr} (hi : i.op ≠ Op.stop) (stack : List Group) :
    push stack (.raw i) = .raw i :: stack := by
  have hs : settle (.raw i) stack = (some (.raw i), stack) := by
    cases stack <;> rfl
  exact push_of_settle hs rfl (by simp [isRaw, hi])

theorem foldl_push_raw {code : List Instr} (h : ∀ i ∈ code, i.op ≠ Op.stop)
    (stack : List Group) : (code.map Group.raw).foldl push stack =
      (code.map Group.raw).reverse ++ stack := by
  induction code generalizing stack with
  | nil => rfl
  | cons i code ih =>
    rw [List.map_cons, List.foldl_cons, push_raw (h i (by simp)),
      ih fun j hj => h j (by simp [hj])]
    simp

section Stop

variable {i stop : Instr} (hstop : stop.op = Op.stop)

include hstop

theorem push_stop (stack : List Group) :
    push stack (.raw stop) = collapseClearing (.raw stop :: stack) := by
  have hs : settle (.raw stop) stack = (some (.raw stop), stack) := by
    cases stack <;> rfl
  simp [push, hs, isIdle, isRaw, hstop]

/-- A single end completes no loop. -/
theorem push_stop_of_raw (hi : i.op ≠ Op.stop) (stack : List Group) :
    push (.raw i :: stack) (.raw stop) = .raw stop :: .raw i :: stack := by
  rw [push_stop hstop]
  obtain hsame | ⟨v, arg, d, outer, inner, ne, eqz, below, -, hstack, -⟩ :=
    collapseClearing_cases (.raw stop :: .raw i :: stack)
  · exact hsame
  · simp only [loopGroups, List.cons_append, List.cons.injEq, Group.raw.injEq] at hstack
    exact absurd (congrArg Instr.op hstack.2.1) hi

theorem foldl_push_raw_stop {code : List Instr} (h : ∀ i ∈ code, i.op ≠ Op.stop)
    (hne : code ≠ []) (stack : List Group) :
    ((code ++ [stop]).map Group.raw).foldl push stack =
      ((code ++ [stop]).map Group.raw).reverse ++ stack := by
  obtain ⟨init, i, rfl⟩ := (List.eq_nil_or_concat code).resolve_left hne
  rw [List.map_append, List.foldl_append, foldl_push_raw h]
  simpa using push_stop_of_raw hstop (h i (by simp)) ((init.map Group.raw).reverse ++ stack)

end Stop

theorem ne_zero_of_odd {d : Int32} (h : d % 2 ≠ 0) : d ≠ 0 := by
  rintro rfl
  exact h rfl

theorem foldl_push_clearLoop {d : Int32} (hd : d % 2 ≠ 0) (v : UInt32) (arg : MemArg)
    (stack : List Group) :
    ((clearHead v arg).map Group.raw ++ [Group.change v arg d] ++
        (clearTail v arg).map Group.raw).foldl push stack = .clear v arg :: stack := by
  have hidle : isIdle (.change v arg d) = false := by simp [isIdle, ne_zero_of_odd hd]
  have hhead : ∀ i ∈ clearHead v arg, i.op ≠ Op.stop := by
    simp only [clearHead, List.forall_mem_cons]
    decide
  have htest : ∀ i ∈ (clearTail v arg).take 5, i.op ≠ Op.stop := by
    simp only [clearTail, List.take_succ_cons, List.take_zero, List.forall_mem_cons]
    decide
  have htail : (clearTail v arg).map Group.raw =
      ((clearTail v arg).take 5 ++ [(⟨Op.stop, .none⟩ : Instr)]).map Group.raw ++
        [.raw ⟨Op.stop, .none⟩] := rfl
  simp only [htail, List.foldl_append, List.foldl_cons, List.foldl_nil, foldl_push_raw hhead]
  show push (List.foldl push (push (.raw ⟨Op.loop, .block emptyType⟩ :: _) _) _) _ = _
  rw [push_of_settle (settle_of_not_merged rfl _) hidle rfl,
    foldl_push_raw_stop rfl htest (List.cons_ne_nil _ _), push_stop rfl]
  exact collapseClearing_loopGroups hd v arg .none .none .none .none stack

theorem stackSize_push_push {g g' sum : Group} (h : merged? g' g = some sum)
    (stack : List Group) :
    stackSize (push (push stack g) g') < stackSize stack + (g.code.length + g'.code.length) := by
  obtain hlaid | hlt := push_cases stack g
  · have hmerged := stackSize_push_merged h stack
    rw [hlaid]
    simp only [stackSize_cons] at hmerged
    omega
  · have hle := stackSize_push_le (push stack g) g'
    omega

section Pieces

variable {op op' : UInt8} {k k' d d' : Int32}

theorem starts_moveCode (v : UInt32) (op : UInt8) (k : Int32) (rest : List Instr) :
    Starts (moveCode v op k ++ rest) :=
  ⟨_, _, rfl, rfl⟩

theorem starts_changeCode (v : UInt32) (arg : MemArg) (op : UInt8) (k : Int32)
    (rest : List Instr) : Starts (changeCode v arg op k ++ rest) :=
  ⟨_, _, rfl, rfl⟩

theorem shrinks_moves (h : Moves op k d) (h' : Moves op' k' d') (v : UInt32) :
    Shrinks (moveCode v op k ++ moveCode v op' k') [.move v d, .move v d'] where
  starts rest := by
    rw [List.append_assoc]
    exact starts_moveCode v op k _
  splits := (splits_moveCode h v).append (splits_moveCode h' v)
  lt := stackSize_push_push (if_pos rfl)

theorem shrinks_changes (h : Moves op k d) (h' : Moves op' k' d') (v : UInt32) (arg : MemArg) :
    Shrinks (changeCode v arg op k ++ changeCode v arg op' k')
      [.change v arg d, .change v arg d'] where
  starts rest := by
    rw [List.append_assoc]
    exact starts_changeCode v arg op k _
  splits := (splits_changeCode h v arg).append (splits_changeCode h' v arg)
  lt := stackSize_push_push (if_pos ⟨rfl, rfl⟩)

theorem shrinks_idleMove (h : Moves op k 0) (v : UInt32) :
    Shrinks (moveCode v op k) [.move v 0] where
  starts := starts_moveCode v op k
  splits := splits_moveCode h v
  lt := stackSize_push_idle rfl

theorem shrinks_idleChange (h : Moves op k 0) (v : UInt32) (arg : MemArg) :
    Shrinks (changeCode v arg op k) [.change v arg 0] where
  starts := starts_changeCode v arg op k
  splits := splits_changeCode h v arg
  lt := stackSize_push_idle rfl

theorem shrinks_clearLoop (h : Moves op k d) (hd : d % 2 ≠ 0) (v : UInt32) (arg : MemArg) :
    Shrinks (clearHead v arg ++ changeCode v arg op k ++ clearTail v arg)
      ((clearHead v arg).map Group.raw ++ [.change v arg d] ++
        (clearTail v arg).map Group.raw) where
  starts _ := ⟨_, _, rfl, rfl⟩
  splits := ((splits_raw rfl).append (splits_changeCode h v arg)).append (splits_raw rfl)
  lt stack := by
    rw [foldl_push_clearLoop hd, stackSize_cons]
    exact Nat.add_lt_add_left (by simp [Group.code, clearHead, changeCode, clearTail]) _

end Pieces

/-- Nothing is left to condense: neighbouring moves or changes of the same place, moves or changes
by zero, or loops that change a cell by an odd number until it is zero. -/
structure Normal (code : List Instr) : Prop where
  moves : ∀ v {op k d op' k' d'}, Moves op k d → Moves op' k' d' →
    ¬ moveCode v op k ++ moveCode v op' k' <:+: code
  changes : ∀ v arg {op k d op' k' d'}, Moves op k d → Moves op' k' d' →
    ¬ changeCode v arg op k ++ changeCode v arg op' k' <:+: code
  idleMoves : ∀ v {op k}, Moves op k 0 → ¬ moveCode v op k <:+: code
  idleChanges : ∀ v arg {op k}, Moves op k 0 → ¬ changeCode v arg op k <:+: code
  clearLoops : ∀ v arg {op k d}, Moves op k d → d % 2 ≠ 0 →
    ¬ clearHead v arg ++ changeCode v arg op k ++ clearTail v arg <:+: code

theorem normal_of_condense_eq {code : List Instr} (h : condense code = code) : Normal code where
  moves v _ _ _ _ _ _ hm hm' hin := (shrinks_moves hm hm' v).condense_ne hin h
  changes v arg _ _ _ _ _ _ hm hm' hin := (shrinks_changes hm hm' v arg).condense_ne hin h
  idleMoves v _ _ hm hin := (shrinks_idleMove hm v).condense_ne hin h
  idleChanges v arg _ _ hm hin := (shrinks_idleChange hm v arg).condense_ne hin h
  clearLoops v arg _ _ _ hm hd hin := (shrinks_clearLoop hm hd v arg).condense_ne hin h

end TapeWasm.Peephole
