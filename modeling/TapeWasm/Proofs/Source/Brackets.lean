import TapeWasm.Source.Brackets

/-!
Words of matching brackets. `Balanced` is their grammar; `Closes` counts the open brackets, as the
checks of programs do, and both say the same of whole programs.
-/
namespace TapeWasm

/-- The grammar of programs: nothing, a symbol other than a bracket, or a loop, and a program. -/
inductive Balanced : List Symbol → Prop
  | nil : Balanced []
  | cons {s : Symbol} {r : List Symbol} (h : s ≠ .opening) (h' : s ≠ .closing)
      (hr : Balanced r) : Balanced (s :: r)
  | loop {body r : List Symbol} (hbody : Balanced body) (hr : Balanced r) :
      Balanced (.opening :: (body ++ .closing :: r))

/-- The symbols close exactly `n` brackets that are open before them. -/
def Closes : Nat → List Symbol → Prop
  | n, [] => n = 0
  | n, s :: r =>
    match s with
    | .opening => Closes (n + 1) r
    | .closing =>
      match n with
      | 0 => False
      | n + 1 => Closes n r
    | _ => Closes n r

theorem closes_cons {s : Symbol} (h : s ≠ .opening) (h' : s ≠ .closing) (n : Nat)
    (r : List Symbol) : Closes n (s :: r) ↔ Closes n r := by
  cases s <;> first | rfl | contradiction

theorem Balanced.closes_append {a : List Symbol} (h : Balanced a) (n : Nat) (r : List Symbol) :
    Closes n (a ++ r) ↔ Closes n r := by
  induction h generalizing n r with
  | nil => rfl
  | cons h h' _ ih => rw [List.cons_append, closes_cons h h', ih]
  | @loop body rest _ _ ihBody ih =>
    rw [List.cons_append, List.append_assoc]
    change Closes (n + 1) (body ++ (.closing :: rest ++ r)) ↔ _
    rw [ihBody]
    exact ih n r

/-- Up to the bracket that it closes, a word is balanced. -/
theorem Closes.split {n : Nat} {a : List Symbol} (h : Closes n a) :
    match n with
    | 0 => Balanced a
    | n + 1 => ∃ body r, a = body ++ .closing :: r ∧ Balanced body ∧ Closes n r := by
  induction hlen : a.length using Nat.strongRecOn generalizing n a with
  | ind len ih =>
    cases a with
    | nil =>
      obtain rfl : n = 0 := h
      exact .nil
    | cons s r =>
      subst hlen
      by_cases hopen : s = .opening
      · subst hopen
        obtain ⟨body, rest, rfl, hbody, hrest⟩ := ih _ (by simp) (n := n + 1) h rfl
        have hshort : rest.length < (Symbol.opening :: (body ++ .closing :: rest)).length := by
          simp; omega
        cases n with
        | zero => exact .loop hbody (ih _ hshort hrest rfl)
        | succ n =>
          obtain ⟨body', rest', rfl, hbody', hrest'⟩ := ih _ hshort hrest rfl
          exact ⟨.opening :: (body ++ .closing :: body'), rest', by simp, .loop hbody hbody',
            hrest'⟩
      · by_cases hclose : s = .closing
        · subst hclose
          cases n with
          | zero => exact absurd h not_false
          | succ n => exact ⟨[], r, rfl, .nil, h⟩
        · rw [closes_cons hopen hclose] at h
          have hr := ih _ (by simp) h rfl
          cases n with
          | zero => exact .cons hopen hclose hr
          | succ n =>
            obtain ⟨body, rest, rfl, hbody, hrest⟩ := hr
            exact ⟨s :: body, rest, rfl, .cons hopen hclose hbody, hrest⟩

theorem balanced_iff_closes {a : List Symbol} : Balanced a ↔ Closes 0 a := by
  constructor
  · intro h
    have := h.closes_append 0 []
    rw [List.append_nil] at this
    exact this.mpr rfl
  · exact Closes.split

/-- The check of a program accepts the words of the grammar. -/
theorem bracketFaultFrom_eq_none_iff (bs : Bytes) (i : Nat) (opened : List Nat) :
    Program.bracketFaultFrom bs i opened = none ↔
      Closes opened.length (bs.filterMap Symbol.ofByte?) := by
  induction bs generalizing i opened with
  | nil => cases opened <;> simp [Program.bracketFaultFrom, Closes]
  | cons b r ih =>
    unfold Program.bracketFaultFrom
    cases hb : Symbol.ofByte? b with
    | none => simp only [List.filterMap_cons_none hb, ih]
    | some s =>
      rw [List.filterMap_cons_some hb]
      cases s with
      | opening => exact ih (i + 1) (i :: opened)
      | closing =>
        cases opened with
        | nil => simp [Closes]
        | cons _ outer => exact ih (i + 1) outer
      | _ => exact ih (i + 1) opened

theorem Program.check_eq_ok_iff (p : Program) :
    p.check = .ok () ↔ Balanced (p.symbols.filterMap Symbol.ofByte?) := by
  rw [balanced_iff_closes]
  refine Iff.trans ?_ (bracketFaultFrom_eq_none_iff p.symbols 0 [])
  unfold Program.check Program.bracketFault?
  split <;> simp_all

end TapeWasm
