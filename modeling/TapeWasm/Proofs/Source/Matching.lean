import Mathlib.Order.Bounds.Basic
import TapeWasm.Proofs.Source.Brackets

/-!
Which brackets belong together. Two brackets are partners if what stands between them is a word of
the grammar. The check of a program finds the first `]` without a partner or, if there is none, the
last `[` without one.
-/
namespace TapeWasm

/-- The symbols of a byte string; other bytes are passed over. -/
abbrev word (bs : Bytes) : List Symbol :=
  bs.filterMap Symbol.ofByte?

theorem ofByte?_eq_some_iff {b : UInt8} {s : Symbol} :
    Symbol.ofByte? b = some s ↔ b = s.toByte := by
  constructor
  · intro h
    unfold Symbol.ofByte? at h
    split at h <;> cases h <;> rfl
  · rintro rfl
    exact Symbol.ofByte?_toByte s

structure Partners (bs : Bytes) (i j : Nat) : Prop where
  before : i < j
  opening : bs[i]? = some Symbol.opening.toByte
  closing : bs[j]? = some Symbol.closing.toByte
  between : Balanced (word ((bs.take j).drop (i + 1)))

def ClosesNothing (bs : Bytes) (j : Nat) : Prop :=
  bs[j]? = some Symbol.closing.toByte ∧ ∀ i, ¬ Partners bs i j

def NeverClosed (bs : Bytes) (i : Nat) : Prop :=
  bs[i]? = some Symbol.opening.toByte ∧ ∀ j, ¬ Partners bs i j

/-- A `]` right after the bytes would close the bracket at `i`. -/
structure Awaits (bs : Bytes) (i : Nat) : Prop where
  opening : bs[i]? = some Symbol.opening.toByte
  behind : Balanced (word (bs.drop (i + 1)))

theorem Awaits.lt {bs : Bytes} {i : Nat} (h : Awaits bs i) : i < bs.length :=
  (List.getElem?_eq_some_iff.mp h.opening).1

theorem NeverClosed.lt {bs : Bytes} {i : Nat} (h : NeverClosed bs i) : i < bs.length :=
  (List.getElem?_eq_some_iff.mp h.1).1

theorem ClosesNothing.lt {bs : Bytes} {j : Nat} (h : ClosesNothing bs j) : j < bs.length :=
  (List.getElem?_eq_some_iff.mp h.1).1

section Longer

variable {bs : Bytes} {b : UInt8} {i j : Nat}

/-- What follows has no say in which brackets are partners. -/
theorem partners_append (r : Bytes) (hj : j < bs.length) :
    Partners (bs ++ r) i j ↔ Partners bs i j := by
  constructor
  · intro ⟨hij, hopening, hclosing, hbetween⟩
    rw [List.getElem?_append_left (by omega)] at hopening hclosing
    rw [List.take_append_of_le_length hj.le] at hbetween
    exact ⟨hij, hopening, hclosing, hbetween⟩
  · intro ⟨hij, hopening, hclosing, hbetween⟩
    constructor
    · exact hij
    · rwa [List.getElem?_append_left (by omega)]
    · rwa [List.getElem?_append_left (by omega)]
    · rwa [List.take_append_of_le_length hj.le]

theorem partners_last_iff :
    Partners (bs ++ [b]) i bs.length ↔ b = Symbol.closing.toByte ∧ Awaits bs i := by
  constructor
  · intro ⟨hij, hopening, hclosing, hbetween⟩
    rw [List.getElem?_append_left hij] at hopening
    rw [List.take_left] at hbetween
    exact ⟨by simpa using hclosing, hopening, hbetween⟩
  · rintro ⟨rfl, hawaits⟩
    constructor
    · exact hawaits.lt
    · rw [List.getElem?_append_left hawaits.lt]
      exact hawaits.opening
    · simp
    · rw [List.take_left]
      exact hawaits.behind

/-- One byte more gives a bracket a partner only if it is a `]`. -/
theorem partners_concat :
    Partners (bs ++ [b]) i j ↔
      Partners bs i j ∨ j = bs.length ∧ b = Symbol.closing.toByte ∧ Awaits bs i := by
  constructor
  · intro h
    have hj : j < (bs ++ [b]).length := (List.getElem?_eq_some_iff.mp h.closing).1
    rw [List.length_append, List.length_singleton] at hj
    rcases Nat.lt_or_ge j bs.length with hlt | hge
    · exact .inl ((partners_append [b] hlt).mp h)
    · obtain rfl : j = bs.length := by omega
      exact .inr ⟨rfl, partners_last_iff.mp h⟩
  · rintro (h | ⟨rfl, h⟩)
    · exact (partners_append [b] (List.getElem?_eq_some_iff.mp h.closing).1).mpr h
    · exact partners_last_iff.mpr h

theorem getElem?_concat_iff {x : UInt8} :
    (bs ++ [b])[i]? = some x ↔ bs[i]? = some x ∨ i = bs.length ∧ b = x := by
  rcases Nat.lt_trichotomy i bs.length with hlt | rfl | hgt
  · simp [List.getElem?_append_left hlt, hlt.ne]
  · simp
  · rw [List.getElem?_append_right hgt.le, List.getElem?_eq_none_iff.mpr hgt.le]
    simp [Nat.sub_eq_zero_iff_le, hgt, hgt.ne']

theorem neverClosed_concat :
    NeverClosed (bs ++ [b]) i ↔
      NeverClosed bs i ∧ ¬ (b = Symbol.closing.toByte ∧ Awaits bs i) ∨
        i = bs.length ∧ b = Symbol.opening.toByte := by
  constructor
  · rintro ⟨hopening, hpartner⟩
    rcases getElem?_concat_iff.mp hopening with hopening | hlast
    · refine .inl ⟨⟨hopening, fun j hj => ?_⟩, fun hawaits => ?_⟩
      · exact hpartner j (partners_concat.mpr (.inl hj))
      · exact hpartner bs.length (partners_concat.mpr (.inr ⟨rfl, hawaits⟩))
    · exact .inr hlast
  · rintro (⟨⟨hopening, hpartner⟩, hawaits⟩ | ⟨rfl, rfl⟩)
    · refine ⟨getElem?_concat_iff.mpr (.inl hopening), fun j hj => ?_⟩
      rcases partners_concat.mp hj with hj | ⟨-, hj⟩
      · exact hpartner j hj
      · exact hawaits hj
    · refine ⟨getElem?_concat_iff.mpr (.inr ⟨rfl, rfl⟩), fun j hj => ?_⟩
      have hlt := (List.getElem?_eq_some_iff.mp hj.closing).1
      have hij := hj.before
      rw [List.length_append, List.length_singleton] at hlt
      omega

theorem closesNothing_append (r : Bytes) (hj : j < bs.length) :
    ClosesNothing (bs ++ r) j ↔ ClosesNothing bs j := by
  unfold ClosesNothing
  simp only [partners_append r hj, List.getElem?_append_left hj]

theorem closesNothing_last_iff :
    ClosesNothing (bs ++ [b]) bs.length ↔
      b = Symbol.closing.toByte ∧ ∀ i, ¬ Awaits bs i := by
  unfold ClosesNothing
  simp only [partners_last_iff, List.getElem?_concat_length, Option.some.injEq, not_and]
  exact ⟨fun h => ⟨h.1, fun i => h.2 i h.1⟩, fun h => ⟨h.1, fun i _ => h.2 i⟩⟩

end Longer

/-! The brackets that are open after some bytes. -/

theorem Balanced.append {a r : List Symbol} (ha : Balanced a) (hr : Balanced r) :
    Balanced (a ++ r) := by
  rw [balanced_iff_closes] at hr ⊢
  exact (ha.closes_append 0 r).mpr hr

theorem exists_closes_of_append {n : Nat} {a r : List Symbol} (h : Closes n (a ++ r)) :
    ∃ k, Closes k r := by
  induction a generalizing n with
  | nil => exact ⟨n, h⟩
  | cons s a ih =>
    cases s with
    | closing =>
      cases n with
      | zero => exact absurd h not_false
      | succ n => exact ih h
    | _ => exact ih h

/-- A bracket that is still open after a word of the grammar is in no word of the grammar. -/
theorem not_balanced_opening {body : List Symbol} (a : List Symbol) (hbody : Balanced body) :
    ¬ Balanced (a ++ .opening :: body) := by
  intro h
  obtain ⟨k, hk⟩ := exists_closes_of_append (balanced_iff_closes.mp h)
  have hopen : Closes (k + 1) (body ++ []) := by
    rw [List.append_nil]
    exact hk
  exact absurd ((hbody.closes_append (k + 1) []).mp hopen) (Nat.succ_ne_zero k)

/-- The bytes are words of the grammar with open brackets between them, at the given indices,
innermost first. -/
inductive Opened : Bytes → List Nat → Prop
  | closed {bs : Bytes} (h : Balanced (word bs)) : Opened bs []
  | inside {bs body : Bytes} {opened : List Nat} (h : Opened bs opened)
      (hbody : Balanced (word body)) :
      Opened (bs ++ Symbol.opening.toByte :: body) (bs.length :: opened)

namespace Opened

variable {bs : Bytes} {opened : List Nat} {b : UInt8} {i : Nat}

theorem lt (h : Opened bs opened) : ∀ i ∈ opened, i < bs.length := by
  induction h with
  | closed => simp
  | inside _ _ ih =>
    intro i hi
    rw [List.length_append, List.length_cons]
    rcases List.mem_cons.mp hi with rfl | hi
    · omega
    · have := ih i hi
      omega

theorem sorted (h : Opened bs opened) : opened.Pairwise (· > ·) := by
  induction h with
  | closed => exact .nil
  | inside h _ ih => exact .cons h.lt ih

theorem other (h : Opened bs opened) (hopening : Symbol.ofByte? b ≠ some .opening)
    (hclosing : Symbol.ofByte? b ≠ some .closing) : Opened (bs ++ [b]) opened := by
  have hword : Balanced (word [b]) := by
    cases hb : Symbol.ofByte? b with
    | none =>
      rw [word, List.filterMap_cons_none hb]
      exact .nil
    | some s =>
      rw [word, List.filterMap_cons_some hb]
      refine .cons ?_ ?_ .nil
      · rintro rfl
        exact hopening hb
      · rintro rfl
        exact hclosing hb
  cases h with
  | closed h =>
    refine .closed ?_
    rw [word, List.filterMap_append]
    exact h.append hword
  | inside h hbody =>
    rw [List.append_assoc, List.cons_append]
    refine .inside h ?_
    rw [word, List.filterMap_append]
    exact hbody.append hword

theorem push (h : Opened bs opened) :
    Opened (bs ++ [Symbol.opening.toByte]) (bs.length :: opened) :=
  .inside h .nil

/-- A `]` closes the innermost of the open brackets. -/
theorem pop (h : Opened bs (i :: opened)) : Opened (bs ++ [Symbol.closing.toByte]) opened := by
  cases h with
  | @inside bs body _ h hbody =>
    have hloop : Balanced (word (Symbol.opening.toByte :: (body ++ [Symbol.closing.toByte]))) := by
      rw [word, List.filterMap_cons_some (Symbol.ofByte?_toByte _), List.filterMap_append]
      exact .loop hbody .nil
    rw [List.append_assoc, List.cons_append]
    cases h with
    | closed h =>
      refine .closed ?_
      rw [word, List.filterMap_append]
      exact h.append hloop
    | inside h hbody' =>
      rw [List.append_assoc, List.cons_append]
      refine .inside h ?_
      rw [word, List.filterMap_append]
      exact hbody'.append hloop

/-- The bytes up to an opening bracket, the bracket and those behind it. -/
theorem word_split (hi : bs[i]? = some Symbol.opening.toByte) :
    word bs = word (bs.take i) ++ .opening :: word (bs.drop (i + 1)) := by
  have hlt := (List.getElem?_eq_some_iff.mp hi).1
  have hget := (List.getElem?_eq_some_iff.mp hi).2
  have hbs : bs = bs.take i ++ Symbol.opening.toByte :: bs.drop (i + 1) := by
    rw [← hget, List.getElem_cons_drop, List.take_append_drop]
  conv_lhs => rw [hbs]
  rw [word, List.filterMap_append, List.filterMap_cons_some (Symbol.ofByte?_toByte _)]

theorem not_awaits (h : Balanced (word bs)) : ¬ Awaits bs i := by
  rintro ⟨hopening, hbehind⟩
  rw [word_split hopening] at h
  exact not_balanced_opening _ hbehind h

/-- Only the innermost open bracket can be closed next. -/
theorem awaits_iff (h : Opened bs opened) : Awaits bs i ↔ opened.head? = some i := by
  cases h with
  | closed h =>
    simp only [List.head?_nil, reduceCtorEq, iff_false]
    exact not_awaits h
  | @inside bs body opened h hbody =>
    rw [List.head?_cons, Option.some.injEq]
    constructor
    · intro ⟨hopening, hbehind⟩
      rcases Nat.lt_trichotomy bs.length i with hgt | heq | hlt
      · -- The bracket lies in the last word of the grammar, where it has a partner already.
        obtain ⟨k, rfl⟩ : ∃ k, i = bs.length + (k + 1) := ⟨i - bs.length - 1, by omega⟩
        rw [List.getElem?_append_right (Nat.le_add_right _ _), Nat.add_sub_cancel_left,
          List.getElem?_cons_succ] at hopening
        rw [Nat.add_assoc, List.drop_length_add_append, List.drop_succ_cons] at hbehind
        exact absurd ⟨hopening, hbehind⟩ (not_awaits hbody)
      · exact heq
      · rw [List.drop_append_of_le_length hlt, word, List.filterMap_append,
          List.filterMap_cons_some (Symbol.ofByte?_toByte _)] at hbehind
        exact absurd hbehind (not_balanced_opening _ hbody)
    · rintro rfl
      constructor
      · simp
      · rw [List.drop_length_add_append, List.drop_succ_cons, List.drop_zero]
        exact hbody

end Opened

/-- After the bytes, every `]` has had a bracket to close, and the indices are those of the brackets
that are not closed. -/
structure Matched (bs : Bytes) (opened : List Nat) : Prop where
  shape : Opened bs opened
  closing : ∀ j, ¬ ClosesNothing bs j
  opening : ∀ i, i ∈ opened ↔ NeverClosed bs i

namespace Matched

variable {bs : Bytes} {opened : List Nat} {b : UInt8} {i : Nat}

theorem nil : Matched [] [] where
  shape := .closed .nil
  closing j h := by simpa using h.lt
  opening i := by
    constructor
    · intro h
      cases h
    · intro h
      simpa using h.lt

theorem closing_concat (h : Matched bs opened)
    (hlast : b = Symbol.closing.toByte → ∃ i, Awaits bs i) (j : Nat) :
    ¬ ClosesNothing (bs ++ [b]) j := by
  intro hj
  have hlt := hj.lt
  rw [List.length_append, List.length_singleton] at hlt
  rcases Nat.lt_or_ge j bs.length with hlt | hge
  · exact h.closing j ((closesNothing_append [b] hlt).mp hj)
  · obtain rfl : j = bs.length := by omega
    obtain ⟨hb, hnone⟩ := closesNothing_last_iff.mp hj
    obtain ⟨i, hi⟩ := hlast hb
    exact hnone i hi

theorem other (h : Matched bs opened) (hopening : Symbol.ofByte? b ≠ some .opening)
    (hclosing : Symbol.ofByte? b ≠ some .closing) : Matched (bs ++ [b]) opened := by
  have hb : b ≠ Symbol.closing.toByte := fun he => hclosing (ofByte?_eq_some_iff.mpr he)
  have hb' : b ≠ Symbol.opening.toByte := fun he => hopening (ofByte?_eq_some_iff.mpr he)
  constructor
  · exact h.shape.other hopening hclosing
  · exact h.closing_concat fun he => absurd he hb
  · intro i
    rw [neverClosed_concat, h.opening]
    simp [hb, hb']

theorem push (h : Matched bs opened) :
    Matched (bs ++ [Symbol.opening.toByte]) (bs.length :: opened) := by
  constructor
  · exact h.shape.push
  · exact h.closing_concat fun he => absurd he (by decide)
  · intro i
    rw [neverClosed_concat, List.mem_cons, h.opening]
    have hne : Symbol.opening.toByte ≠ Symbol.closing.toByte := by decide
    simp [hne, or_comm]

theorem pop (h : Matched bs (i :: opened)) : Matched (bs ++ [Symbol.closing.toByte]) opened := by
  have hnotin : i ∉ opened := fun hi =>
    absurd (List.rel_of_pairwise_cons h.shape.sorted hi) (Nat.lt_irrefl i)
  constructor
  · exact h.shape.pop
  · exact h.closing_concat fun _ => ⟨i, h.shape.awaits_iff.mpr rfl⟩
  · intro k
    have hne : Symbol.closing.toByte ≠ Symbol.opening.toByte := by decide
    rw [neverClosed_concat, ← h.opening, h.shape.awaits_iff, List.mem_cons, List.head?_cons,
      Option.some.injEq]
    constructor
    · intro hk
      refine .inl ⟨.inr hk, ?_⟩
      rintro ⟨-, rfl⟩
      exact hnotin hk
    · rintro (⟨rfl | hk, hother⟩ | ⟨-, he⟩)
      · exact absurd ⟨rfl, rfl⟩ hother
      · exact hk
      · exact absurd he hne

end Matched

def BracketFault.Explains (bs : Bytes) : Option BracketFault → Prop
  | none => Balanced (word bs) ∧ (∀ j, ¬ ClosesNothing bs j) ∧ ∀ i, ¬ NeverClosed bs i
  | some (.unmatched j) => IsLeast {j | ClosesNothing bs j} j
  | some (.unclosed i) =>
    (∀ j, ¬ ClosesNothing bs j) ∧ IsGreatest {i | NeverClosed bs i} i

/-- Where a `]` has nothing to close, it is the first such. -/
theorem Matched.isLeast {bs : Bytes} (h : Matched bs []) (r : Bytes) :
    IsLeast {j | ClosesNothing (bs ++ Symbol.closing.toByte :: r) j} bs.length := by
  have hnone (i : Nat) : ¬ Awaits bs i := by
    rw [h.shape.awaits_iff]
    simp
  constructor
  · have hlast : ClosesNothing (bs ++ [Symbol.closing.toByte]) bs.length :=
      closesNothing_last_iff.mpr ⟨rfl, hnone⟩
    show ClosesNothing _ _
    rw [List.append_cons]
    exact (closesNothing_append r (by simp)).mpr hlast
  · intro j hj
    by_contra hlt
    exact h.closing j ((closesNothing_append _ (by omega)).mp hj)

theorem Matched.isGreatest {bs : Bytes} {i : Nat} {opened : List Nat}
    (h : Matched bs (i :: opened)) : IsGreatest {i | NeverClosed bs i} i := by
  constructor
  · exact (h.opening i).mp (by simp)
  · intro k hk
    rcases List.mem_cons.mp ((h.opening k).mpr hk) with rfl | hk
    · exact le_rfl
    · exact (List.rel_of_pairwise_cons h.shape.sorted hk).le

/-- From the brackets that are open so far the check finds what is wrong with all of them. -/
theorem bracketFaultFrom_explains (r : Bytes) {bs : Bytes} {opened : List Nat}
    (h : Matched bs opened) :
    BracketFault.Explains (bs ++ r) (Program.bracketFaultFrom r bs.length opened) := by
  induction r generalizing bs opened with
  | nil =>
    rw [List.append_nil]
    cases opened with
    | nil =>
      cases h.shape with
      | closed hbalanced =>
        exact ⟨hbalanced, h.closing, fun i hi => absurd ((h.opening i).mpr hi) List.not_mem_nil⟩
    | cons i opened => exact ⟨h.closing, h.isGreatest⟩
  | cons b r ih =>
    have hlength : bs.length + 1 = (bs ++ [b]).length := by simp
    unfold Program.bracketFaultFrom
    rw [List.append_cons, hlength]
    cases hb : Symbol.ofByte? b with
    | none => exact ih (h.other (by simp [hb]) (by simp [hb]))
    | some s =>
      cases s with
      | opening =>
        obtain rfl := ofByte?_eq_some_iff.mp hb
        exact ih h.push
      | closing =>
        obtain rfl := ofByte?_eq_some_iff.mp hb
        cases opened with
        | nil =>
          rw [← List.append_cons]
          exact h.isLeast r
        | cons i opened => exact ih h.pop
      | _ => exact ih (h.other (by simp [hb]) (by simp [hb]))

theorem Program.bracketFault?_explains (p : Program) :
    BracketFault.Explains p.symbols p.bracketFault? :=
  bracketFaultFrom_explains p.symbols .nil

end TapeWasm
