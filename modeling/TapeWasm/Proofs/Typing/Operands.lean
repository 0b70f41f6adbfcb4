import TapeWasm.Proofs.Typing.Checks

/-!
The operand types that a state of the checker stands for. Where code can be reached the checker
knows all operands of the innermost block. Where it cannot, there may be any operands under those
that it knows, and an operand of unknown type may have any type. Taking operands from such a state
succeeds exactly if it stands for operands of the wanted types.
-/
namespace TapeWasm.Wasm.Checker

/-- The operands `top` of a block stand for operands of the types given, both topmost first. -/
inductive Admits (isUnreachable : Bool) : List ValueType → List ValueType → Prop
  | nil : Admits isUnreachable [] []
  | hidden (h : isUnreachable = true) (ts : List ValueType) : Admits isUnreachable [] ts
  | cons {t t' : ValueType} {top ts : List ValueType} (h : t = t' ∨ t = .unknown)
      (hts : Admits isUnreachable top ts) : Admits isUnreachable (t :: top) (t' :: ts)

namespace Admits

variable {u : Bool} {top ts ks : List ValueType}

theorem refl (u : Bool) (top : List ValueType) : Admits u top top := by
  induction top with
  | nil => exact .nil
  | cons t top ih => exact .cons (.inl rfl) ih

theorem append (h : Admits u top ts) (ks : List ValueType) : Admits u (ks ++ top) (ks ++ ts) := by
  induction ks with
  | nil => exact h
  | cons k ks ih => exact .cons (.inl rfl) ih

theorem eq_nil (h : Admits u top []) : top = [] := by
  cases h <;> rfl

/-- Operands of known types stand for themselves. -/
theorem of_known (hks : ∀ k ∈ ks, k ≠ .unknown) (h : Admits u (ks ++ top) ts) :
    ∃ rest, ts = ks ++ rest ∧ Admits u top rest := by
  induction ks generalizing ts with
  | nil => exact ⟨ts, rfl, h⟩
  | cons k ks ih =>
    rw [List.forall_mem_cons] at hks
    cases h with
    | cons ht hts =>
      obtain ⟨rest, rfl, hrest⟩ := ih hks.2 hts
      obtain rfl := ht.resolve_right hks.1
      exact ⟨rest, rfl, hrest⟩

theorem eq_of_known (hks : ∀ k ∈ ks, k ≠ .unknown) (h : Admits false ks ts) : ts = ks := by
  rw [← List.append_nil ks] at h
  obtain ⟨rest, rfl, hrest⟩ := h.of_known hks
  cases hrest with
  | nil => exact List.append_nil ks
  | hidden hu => cases hu

end Admits

/-- The checker in the block `g`, with operands of its own above those in `base`. -/
def inBlock (g : Frame) (fs : List Frame) (base : List ValueType) (isUnreachable : Bool)
    (top : List ValueType) : Checker :=
  ⟨top ++ base, { g with isUnreachable } :: fs⟩

section InBlock

variable {g : Frame} {fs : List Frame} {base : List ValueType} {u : Bool}
  {top ts : List ValueType} {t want : ValueType} {c c' : Checker}

@[simp] theorem pushAll_inBlock (ts : List ValueType) :
    (inBlock g fs base u top).pushAll ts = inBlock g fs base u (ts.reverse ++ top) := by
  simp [pushAll, inBlock]

theorem abandon_inBlock (hg : g.height = base.length) :
    (inBlock g fs base u top).abandon = inBlock g fs base true [] :=
  On.abandon (g := { g with isUnreachable := u }) hg ⟨top, rfl⟩

theorem pop_of_admits (hg : g.height = base.length) (h : Admits u top (t :: ts)) :
    ∃ got top', pop (inBlock g fs base u top) = .ok (got, inBlock g fs base u top') ∧
      (got = t ∨ got = .unknown) ∧ Admits u top' ts := by
  unfold inBlock
  rw [pop_eq (g := { g with isUnreachable := u }) hg]
  cases h with
  | hidden hu =>
    refine ⟨.unknown, [], ?_, .inr rfl, .hidden hu ts⟩
    simp [hu]
  | cons ht hts => exact ⟨_, _, rfl, ht, hts⟩

theorem admits_of_pop (hg : g.height = base.length)
    (h : pop (inBlock g fs base u top) = .ok (t, c)) :
    ∃ top', c = inBlock g fs base u top' ∧
      ∀ t' ts, t = t' ∨ t = .unknown → Admits u top' ts → Admits u top (t' :: ts) := by
  unfold inBlock at h
  rw [pop_eq (g := { g with isUnreachable := u }) hg] at h
  cases top with
  | nil =>
    simp only at h
    split at h
    · rename_i hu
      cases h
      exact ⟨[], rfl, fun t' ts _ _ => .hidden hu _⟩
    · cases h
  | cons t top =>
    cases h
    exact ⟨top, rfl, fun t' ts ht hts => .cons ht hts⟩

theorem popType_of_admits (hg : g.height = base.length) (h : Admits u top (t :: ts))
    (hwant : want = t ∨ want = .unknown) :
    ∃ got top', popType (inBlock g fs base u top) want = .ok (got, inBlock g fs base u top') ∧
      (got = t ∨ got = .unknown) ∧ Admits u top' ts := by
  obtain ⟨got, top', hpop, hgot, hts⟩ := pop_of_admits hg h
  refine ⟨got, top', except_bind_ok_iff.mpr ⟨_, hpop, ?_⟩, hgot, hts⟩
  simp only
  rw [if_neg]
  · rfl
  · rintro ⟨hne, hgot', hwant'⟩
    exact hne ((hgot.resolve_right hgot').trans (hwant.resolve_right hwant').symm)

theorem pop_of_popType (h : popType c want = .ok (t, c')) :
    pop c = .ok (t, c') ∧ (t = want ∨ t = .unknown ∨ want = .unknown) := by
  obtain ⟨⟨got, c₁⟩, hpop, h⟩ := except_bind_ok_iff.mp h
  simp only at h
  split at h
  · cases h
  · rename_i hfits
    cases h
    exact ⟨hpop, Decidable.byContradiction fun hne => hfits (by simpa only [not_or] using hne)⟩

theorem expect_of_admits (hg : g.height = base.length) (h : Admits u top (t :: ts)) :
    ∃ top', expect (inBlock g fs base u top) t = .ok (inBlock g fs base u top') ∧
      Admits u top' ts := by
  obtain ⟨got, top', hpop, -, hts⟩ := popType_of_admits hg h (.inl rfl)
  exact ⟨top', except_bind_ok_iff.mpr ⟨_, hpop, rfl⟩, hts⟩

theorem admits_of_expect (hg : g.height = base.length) (ht : t ≠ .unknown)
    (h : expect (inBlock g fs base u top) t = .ok c) :
    ∃ top', c = inBlock g fs base u top' ∧ ∀ ts, Admits u top' ts → Admits u top (t :: ts) := by
  obtain ⟨⟨got, c₁⟩, hpop, h⟩ := except_bind_ok_iff.mp h
  obtain rfl := except_pure_ok_iff.mp h
  obtain ⟨hpop, hgot⟩ := pop_of_popType hpop
  obtain ⟨top', rfl, hadmits⟩ := admits_of_pop hg hpop
  exact ⟨top', rfl, fun ts => hadmits t ts (hgot.imp_right fun h => h.resolve_right ht)⟩

theorem expectTop_of_admits (hg : g.height = base.length) {rest : List ValueType}
    (h : Admits u top (ts ++ rest)) :
    ∃ top', expectTop ts (inBlock g fs base u top) = .ok (inBlock g fs base u top') ∧
      Admits u top' rest := by
  induction ts generalizing top with
  | nil => exact ⟨top, rfl, h⟩
  | cons t ts ih =>
    obtain ⟨top₁, ht, hts⟩ := expect_of_admits hg h
    obtain ⟨top', hexpect, hrest⟩ := ih hts
    exact ⟨top', except_bind_ok_iff.mpr ⟨_, ht, hexpect⟩, hrest⟩

theorem admits_of_expectTop (hg : g.height = base.length) (hts : ∀ t ∈ ts, t ≠ .unknown)
    (h : expectTop ts (inBlock g fs base u top) = .ok c) :
    ∃ top', c = inBlock g fs base u top' ∧
      ∀ rest, Admits u top' rest → Admits u top (ts ++ rest) := by
  induction ts generalizing top with
  | nil =>
    obtain rfl : _ = c := by simpa [expectTop] using h
    exact ⟨top, rfl, fun rest hrest => hrest⟩
  | cons t ts ih =>
    rw [List.forall_mem_cons] at hts
    obtain ⟨c₁, ht, h⟩ := except_bind_ok_iff.mp h
    obtain ⟨top₁, rfl, hone⟩ := admits_of_expect hg hts.1 ht
    obtain ⟨top', rfl, hall⟩ := ih hts.2 h
    exact ⟨top', rfl, fun rest hrest => hone _ (hall rest hrest)⟩

/-- A block closes where it may have left its results. -/
theorem leave_of_admits (hg : g.height = base.length) (h : Admits u top g.type.results.reverse) :
    leave (inBlock g fs base u top) = .ok ({ g with isUnreachable := u }, ⟨base, fs⟩) := by
  rw [← List.append_nil g.type.results.reverse] at h
  obtain ⟨top', hexpect, hnil⟩ : ∃ top', expectTop g.type.results.reverse
      (inBlock g fs base u top) = .ok (inBlock g fs base u top') ∧ Admits u top' [] :=
    expectTop_of_admits hg h
  obtain rfl := hnil.eq_nil
  exact except_bind_ok_iff.mpr ⟨_, hexpect, if_pos hg.symm⟩

theorem admits_of_leave (hg : g.height = base.length) (hr : ∀ t ∈ g.type.results, t ≠ .unknown)
    {f : Frame} (h : leave (inBlock g fs base u top) = .ok (f, c)) :
    f = { g with isUnreachable := u } ∧ c = ⟨base, fs⟩ ∧
      Admits u top g.type.results.reverse := by
  obtain ⟨rfl, rfl⟩ := On.leave (g := { g with isUnreachable := u }) hg ⟨top, rfl⟩ h
  obtain ⟨c₁, hexpect, h⟩ := except_bind_ok_iff.mp h
  have hr' : ∀ t ∈ g.type.results.reverse, t ≠ .unknown := by simpa using hr
  obtain ⟨top', rfl, hadmits⟩ := admits_of_expectTop hg hr' hexpect
  split at h
  · rename_i hlen
    obtain rfl : top' = [] := by simpa [inBlock, hg] using hlen
    have hnil := hadmits [] .nil
    rw [List.append_nil] at hnil
    exact ⟨rfl, rfl, hnil⟩
  · cases h

end InBlock

end TapeWasm.Wasm.Checker
