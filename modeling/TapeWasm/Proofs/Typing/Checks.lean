import TapeWasm.Wasm.Typing

/-!
Type checking as a relation. `Checks` says that instructions take the checker from one state to
another, so that lists of instructions can be taken apart. The operands of a block lie on those of
the blocks around it, and no instruction reaches below the operands of its own block.
-/
namespace TapeWasm.Wasm

theorem except_bind_ok_iff {x : Except ε α} {f : α → Except ε β} {b : β} :
    (x >>= f) = .ok b ↔ ∃ a, x = .ok a ∧ f a = .ok b := by
  cases x <;> simp [bind, Except.bind]

@[simp] theorem except_pure_ok_iff {a b : α} : (pure a : Except ε α) = .ok b ↔ a = b := by
  simp [pure, Except.pure]

namespace Scope

/-- The instructions take the checker from `c` to `e`. -/
def Checks (s : Scope) : List Instr → Checker → Checker → Prop
  | [], c, e => c = e
  | i :: is, c, e => c.frames ≠ [] ∧ ∃ d, s.step i c = .ok d ∧ s.Checks is d e

theorem stepsFrom_eq_ok_iff {s : Scope} {code : List Instr} {n : Nat} {c e : Checker} :
    s.stepsFrom code n c = .ok e ↔ s.Checks code c e := by
  induction code generalizing n c with
  | nil => simp [stepsFrom, Checks]
  | cons i is ih =>
    rw [stepsFrom, Checks]
    cases hf : c.frames with
    | nil => simp
    | cons f fs =>
      cases hi : s.step i c with
      | error f => simp
      | ok d => simp [ih]

theorem checkCode_eq_ok_iff {s : Scope} {code : List Instr} :
    s.checkCode code = .ok () ↔
      ∃ operands, s.Checks code (Checker.enter {} .block { results := s.results })
        ⟨operands, []⟩ := by
  unfold checkCode
  rw [except_bind_ok_iff]
  constructor
  · rintro ⟨⟨operands, frames⟩, hc, h⟩
    cases frames with
    | nil => exact ⟨operands, stepsFrom_eq_ok_iff.mp hc⟩
    | cons f fs => simp at h
  · rintro ⟨operands, hc⟩
    exact ⟨_, stepsFrom_eq_ok_iff.mpr hc, rfl⟩

theorem checks_append {s : Scope} {a b : List Instr} {c e : Checker} :
    s.Checks (a ++ b) c e ↔ ∃ d, s.Checks a c d ∧ s.Checks b d e := by
  induction a generalizing c with
  | nil => simp [Checks]
  | cons i is ih =>
    simp only [List.cons_append, Checks, ih]
    constructor
    · rintro ⟨hf, d, hi, d', ha, hb⟩
      exact ⟨d', ⟨hf, d, hi, ha⟩, hb⟩
    · rintro ⟨d', ⟨hf, d, hi, ha⟩, hb⟩
      exact ⟨hf, d, hi, d', ha, hb⟩

end Scope

theorem Module.checkBody_eq_ok_iff {m : Module} {type : FuncType} {b : Body} :
    m.checkBody type b = .ok () ↔ ∃ code, Instr.decodeAll b.code = .ok code ∧
      Scope.checkCode ⟨m, type.params ++ b.localTypes, type.results⟩ code = .ok () := by
  unfold checkBody
  cases Instr.decodeAll b.code with
  | error f => simp
  | ok code => simp

namespace Checker

/-- The innermost block is `g`, with operands of its own above those in `base`. -/
def On (base : List ValueType) (g : Frame) (fs : List Frame) (c : Checker) : Prop :=
  ∃ top, c = ⟨top ++ base, g :: fs⟩

section On

variable {base : List ValueType} {g : Frame} {fs : List Frame} {c c' : Checker}

theorem On.frames (h : On base g fs c) : c.frames = g :: fs := by
  obtain ⟨top, rfl⟩ := h
  rfl

/-- What taking an operand gives: an operand of the block or, where it has none and its code cannot
be reached, one of unknown type. -/
theorem pop_eq (hg : g.height = base.length) (top : List ValueType) :
    pop ⟨top ++ base, g :: fs⟩ =
      match top with
      | [] => if g.isUnreachable then .ok (.unknown, ⟨base, g :: fs⟩) else .error .underflow
      | t :: ts => .ok (t, ⟨ts ++ base, g :: fs⟩) := by
  cases top with
  | nil => simp [pop, hg]
  | cons t ts =>
    have hne : (t :: (ts ++ base)).length ≠ g.height := by
      rw [hg, List.length_cons, List.length_append]
      omega
    simp only [pop, List.cons_append, if_neg hne]

theorem On.push (h : On base g fs c) (t : ValueType) : On base g fs (c.push t) := by
  obtain ⟨top, rfl⟩ := h
  exact ⟨t :: top, rfl⟩

theorem On.pushAll (h : On base g fs c) (ts : List ValueType) : On base g fs (c.pushAll ts) := by
  obtain ⟨top, rfl⟩ := h
  exact ⟨ts.reverse ++ top, by simp [Checker.pushAll]⟩

theorem On.pop (hg : g.height = base.length) (h : On base g fs c) {t : ValueType}
    (hp : c.pop = .ok (t, c')) : On base g fs c' := by
  obtain ⟨top, rfl⟩ := h
  rw [pop_eq hg] at hp
  cases top with
  | nil =>
    simp only at hp
    split at hp <;> cases hp
    exact ⟨[], rfl⟩
  | cons t ts =>
    cases hp
    exact ⟨ts, rfl⟩

theorem On.popType (hg : g.height = base.length) (h : On base g fs c) {want t : ValueType}
    (hp : c.popType want = .ok (t, c')) : On base g fs c' := by
  obtain ⟨⟨got, c₁⟩, hpop, hp⟩ := except_bind_ok_iff.mp hp
  simp only at hp
  split at hp
  · cases hp
  · obtain ⟨-, rfl⟩ := Prod.mk.inj (except_pure_ok_iff.mp hp)
    exact h.pop hg hpop

theorem On.expect (hg : g.height = base.length) (h : On base g fs c) {want : ValueType}
    (hp : c.expect want = .ok c') : On base g fs c' := by
  obtain ⟨⟨got, c₁⟩, hpop, hp⟩ := except_bind_ok_iff.mp hp
  obtain rfl := except_pure_ok_iff.mp hp
  exact h.popType hg hpop

theorem On.expectTop (hg : g.height = base.length) {ts : List ValueType} (h : On base g fs c)
    (hp : Checker.expectTop ts c = .ok c') : On base g fs c' := by
  induction ts generalizing c with
  | nil =>
    obtain rfl : c = c' := by simpa [Checker.expectTop] using hp
    exact h
  | cons t ts ih =>
    obtain ⟨c₁, ht, hp⟩ := except_bind_ok_iff.mp hp
    exact ih (h.expect hg ht) hp

theorem On.expectAll (hg : g.height = base.length) {ts : List ValueType} (h : On base g fs c)
    (hp : c.expectAll ts = .ok c') : On base g fs c' :=
  h.expectTop hg hp

theorem On.abandon (hg : g.height = base.length) (h : On base g fs c) :
    c.abandon = ⟨base, { g with isUnreachable := true } :: fs⟩ := by
  obtain ⟨top, rfl⟩ := h
  simp [Checker.abandon, hg]

/-- A block that closes leaves the operands of the block around it. -/
theorem On.leave (hg : g.height = base.length) (h : On base g fs c) {f : Frame}
    (hp : c.leave = .ok (f, c')) : f = g ∧ c' = ⟨base, fs⟩ := by
  unfold Checker.leave at hp
  rw [h.frames] at hp
  obtain ⟨c₁, hall, hp⟩ := except_bind_ok_iff.mp hp
  obtain ⟨top, rfl⟩ := h.expectAll hg hall
  split at hp
  · rename_i hlen
    obtain rfl : top = [] := by simpa [hg] using hlen
    obtain ⟨rfl, rfl⟩ := Prod.mk.inj (except_pure_ok_iff.mp hp)
    exact ⟨rfl, rfl⟩
  · cases hp

end On

end Checker
end TapeWasm.Wasm
