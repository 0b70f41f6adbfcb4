import TapeWasm.Proofs.Peephole.Rules

/-!
How a list of instructions is read as groups: what a group is read from, where reading starts anew
whatever stands before, and code that is read as the same groups wherever it stands.
-/
namespace TapeWasm.Peephole

open Wasm

def isStep (op : UInt8) : Bool :=
  op == Op.i32Add || op == Op.i32Sub

theorem isStep_of_signed? {i : Instr} {k d : Int32} (h : signed? i k = some d) :
    isStep i.op = true := by
  unfold signed? at h
  split at h
  · rename_i hop
    rw [hop]
    rfl
  · rename_i hop
    rw [hop]
    rfl
  · cases h

section ReadAs

variable {i : Instr} {rest : List Instr} {r : Group × Nat}

theorem ReadAs.length_code (h : ReadAs i rest r) : r.1.code.length = r.2 + 1 := by
  cases h <;> rfl

theorem ReadAs.le_length (h : ReadAs i rest r) : r.2 ≤ rest.length := by
  cases h <;> simp

end ReadAs

/-! Code that is read from its first instruction on, whatever stands before it. -/

/-- An operation that can only continue a group. -/
def continuing (op : UInt8) (next : Option UInt8) : Bool :=
  op == Op.i32Const || isStep op || op == Op.localSet || op == Op.i32Load || op == Op.i32Store ||
    (op == Op.localGet && next == some Op.i32Load)

theorem ReadAs.continuing {i : Instr} {rest : List Instr} {r : Group × Nat} (h : ReadAs i rest r)
    {t : Nat} (ht : t < r.2) :
    ∃ j, rest[t]? = some j ∧ continuing j.op (rest[t + 1]?.map Instr.op) = true := by
  cases h with
  | raw => cases ht
  | move v hsigned rest =>
    obtain rfl | rfl | rfl : t = 0 ∨ t = 1 ∨ t = 2 := by
      simp only at ht
      omega
    · exact ⟨_, rfl, rfl⟩
    · exact ⟨_, rfl, by simp [Peephole.continuing, isStep_of_signed? hsigned]⟩
    · exact ⟨_, rfl, rfl⟩
  | change v arg hsigned rest =>
    obtain rfl | rfl | rfl | rfl | rfl : t = 0 ∨ t = 1 ∨ t = 2 ∨ t = 3 ∨ t = 4 := by
      simp only at ht
      omega
    · exact ⟨_, rfl, rfl⟩
    · exact ⟨_, rfl, rfl⟩
    · exact ⟨_, rfl, rfl⟩
    · exact ⟨_, rfl, by simp [Peephole.continuing, isStep_of_signed? hsigned]⟩
    · exact ⟨_, rfl, rfl⟩

/-- Code at whose first instruction no group goes on. -/
def Starts (code : List Instr) : Prop :=
  ∃ i rest, code = i :: rest ∧ continuing i.op (rest.head?.map Instr.op) = false

theorem Starts.le_length {code : List Instr} (h : Starts code) (i : Instr)
    (before : List Instr) : (groupAt i (before ++ code)).2 ≤ before.length := by
  obtain ⟨j, rest, rfl, hj⟩ := h
  by_contra hlt
  obtain ⟨j', hget, hcont⟩ := (readAs_groupAt i (before ++ j :: rest)).continuing
    (t := before.length) (by omega)
  have hj' : j' = j := by simpa using hget.symm
  have hnext : (before ++ j :: rest)[before.length + 1]? = rest.head? := by
    rw [List.getElem?_append_right (by omega), Nat.add_sub_cancel_left, List.getElem?_cons_succ,
      List.head?_eq_getElem?]
  rw [hj', hnext, hj] at hcont
  cases hcont

/-! Code that is read as the same groups whatever comes after it. -/

def Splits (code : List Instr) (groups : List Group) : Prop :=
  ∀ rest stack, groupFrom 0 (code ++ rest) stack = groupFrom 0 rest (groups.foldl push stack)

theorem Splits.nil : Splits [] [] :=
  fun _ _ => rfl

theorem Splits.append {a b : List Instr} {gs hs : List Group} (ha : Splits a gs)
    (hb : Splits b hs) : Splits (a ++ b) (gs ++ hs) := by
  intro rest stack
  rw [List.append_assoc, ha, hb, List.foldl_append]

theorem Splits.flatMap {α : Type} {code : α → List Instr} {groups : α → List Group} {as : List α}
    (h : ∀ a ∈ as, Splits (code a) (groups a)) : Splits (as.flatMap code) (as.flatMap groups) := by
  induction as with
  | nil => exact .nil
  | cons a as ih =>
    simp only [List.flatMap_cons]
    exact (h a (by simp)).append (ih fun b hb => h b (by simp [hb]))

theorem Moves.signed? {op : UInt8} {k d : Int32} (h : Moves op k d) (imm : Immediate) :
    signed? ⟨op, imm⟩ k = some d := by
  cases h <;> rfl

theorem splits_moveCode {op : UInt8} {k d : Int32} (h : Moves op k d) (v : UInt32) :
    Splits (moveCode v op k) [.move v d] := by
  intro rest stack
  simp [moveCode, groupFrom, groupAt, move?, accessed?, constant?, h.signed?]

theorem splits_changeCode {op : UInt8} {k d : Int32} (h : Moves op k d) (v : UInt32)
    (arg : MemArg) : Splits (changeCode v arg op k) [.change v arg d] := by
  intro rest stack
  simp [changeCode, groupFrom, groupAt, move?, change?, accessed?, constant?, memoryOf?, h.signed?]

theorem splits_code_move (v : UInt32) (d : Int32) : Splits (Group.move v d).code [.move v d] :=
  splits_moveCode (moves_stepBy d) v

theorem splits_code_change (v : UInt32) (arg : MemArg) (d : Int32) :
    Splits (Group.change v arg d).code [.change v arg d] :=
  splits_changeCode (moves_stepBy d) v arg

/-- Some instruction that is already known at place `t` is not of the kind that `p` asks for. -/
def lacks (code : List Instr) (t : Nat) (p : UInt8 → Bool) : Bool :=
  code[t]?.any fun i => !p i.op

/-- No group of several instructions is read at `i` before `code`. -/
def standsAlone (i : Instr) (code : List Instr) : Bool :=
  i.op != Op.localGet ||
    (lacks code 0 (· == Op.i32Const) || lacks code 1 isStep || lacks code 2 (· == Op.localSet)) &&
    (lacks code 0 (· == Op.localGet) || lacks code 1 (· == Op.i32Load) ||
      lacks code 2 (· == Op.i32Const) || lacks code 3 isStep || lacks code 4 (· == Op.i32Store))

def allStandAlone : List Instr → Bool
  | [] => true
  | i :: code => standsAlone i code && allStandAlone code

theorem not_lacks {code rest : List Instr} {t : Nat} {i : Instr} {p : UInt8 → Bool}
    (hi : (code ++ rest)[t]? = some i) (hp : p i.op = true) : lacks code t p = false := by
  unfold lacks
  cases hc : code[t]? with
  | none => rfl
  | some j =>
    have hlt : t < code.length := (List.getElem?_eq_some_iff.mp hc).1
    rw [List.getElem?_append_left hlt, hc] at hi
    obtain rfl := Option.some.inj hi
    simp [hp]

theorem groupAt_of_standsAlone {i : Instr} {code : List Instr} (h : standsAlone i code = true)
    (rest : List Instr) : groupAt i (code ++ rest) = (.raw i, 0) := by
  have hread := readAs_groupAt i (code ++ rest)
  generalize hall : code ++ rest = all at hread ⊢
  generalize groupAt i all = r at hread ⊢
  have hknown (t : Nat) {j : Instr} {p : UInt8 → Bool} (hj : all[t]? = some j)
      (hp : p j.op = true) : lacks code t p = false :=
    not_lacks (hall ▸ hj) hp
  cases hread with
  | raw => rfl
  | move v hsigned rest =>
    have hk := hknown 0 (p := (· == Op.i32Const)) rfl rfl
    have hs := hknown 1 rfl (isStep_of_signed? hsigned)
    have hw := hknown 2 (p := (· == Op.localSet)) rfl rfl
    simp [standsAlone, hk, hs, hw] at h
  | change v arg hsigned rest =>
    have hg := hknown 0 (p := (· == Op.localGet)) rfl rfl
    have hl := hknown 1 (p := (· == Op.i32Load)) rfl rfl
    have hk := hknown 2 (p := (· == Op.i32Const)) rfl rfl
    have hs := hknown 3 rfl (isStep_of_signed? hsigned)
    have hw := hknown 4 (p := (· == Op.i32Store)) rfl rfl
    simp [standsAlone, hg, hl, hk, hs, hw] at h

theorem splits_raw {code : List Instr} (h : allStandAlone code = true) :
    Splits code (code.map .raw) := by
  intro rest stack
  induction code generalizing stack with
  | nil => rfl
  | cons i code ih =>
    obtain ⟨hi, hcode⟩ : standsAlone i code = true ∧ allStandAlone code = true := by
      simpa [allStandAlone] using h
    simp only [List.cons_append, groupFrom, groupAt_of_standsAlone hi, List.map_cons,
      List.foldl_cons]
    exact ih hcode (push stack (.raw i))

end TapeWasm.Peephole
