import Mathlib.Data.List.Forall2
import TapeWasm.Proofs.Typing.Decision
import TapeWasm.Proofs.Typing.TypeSafety

/-!
Branch tables. Where code can be reached, the operands at an accepted branch table are an index and,
under it, what a branch to the fallback label takes along. Of the listed labels only the number of
operands is compared, so that the operands suit a listed label exactly if its types are those of the
fallback label.
-/
namespace TapeWasm.Wasm

/-- An operand of the first type is taken where one of the second is wanted. -/
def ValueType.Fits (got want : ValueType) : Prop :=
  got = want ∨ got = .unknown ∨ want = .unknown

instance : DecidableRel ValueType.Fits :=
  fun got want => inferInstanceAs (Decidable (got = want ∨ got = .unknown ∨ want = .unknown))

/-- The operands, topmost first, are taken where the types are wanted, the last one topmost. -/
def ValueType.Suit (operands types : List ValueType) : Prop :=
  List.Forall₂ Fits operands types.reverse

open ValueType (Suit)

/-- Between known types nothing fits but the same type. -/
theorem ValueType.eq_of_fits {as bs : List ValueType} (h : List.Forall₂ Fits as bs)
    (has : ∀ t ∈ as, t ≠ .unknown) (hbs : ∀ t ∈ bs, t ≠ .unknown) : as = bs := by
  induction h with
  | nil => rfl
  | cons hone _ ih =>
    rw [List.forall_mem_cons] at has hbs
    rcases hone with rfl | hone | hone
    · rw [ih has.2 hbs.2]
    · exact absurd hone has.1
    · exact absurd hone hbs.1

theorem ValueType.suit_iff_of_known {operands types : List ValueType}
    (hoperands : ∀ t ∈ operands, t ≠ .unknown) (htypes : ∀ t ∈ types, t ≠ .unknown) :
    Suit operands types ↔ operands = types.reverse := by
  constructor
  · intro h
    exact eq_of_fits h hoperands (by simpa using htypes)
  · rintro rfl
    exact List.forall₂_same.mpr fun _ _ => .inl rfl

/-- Known operands suit the types of one list only. -/
theorem ValueType.Suit.iff_eq {operands ts ks : List ValueType} (h : Suit operands ts)
    (hoperands : ∀ t ∈ operands, t ≠ .unknown) (hts : ∀ t ∈ ts, t ≠ .unknown)
    (hks : ∀ t ∈ ks, t ≠ .unknown) : Suit operands ks ↔ ks = ts := by
  rw [suit_iff_of_known hoperands hks, (suit_iff_of_known hoperands hts).mp h, List.reverse_inj,
    eq_comm]

namespace Checker

variable {g : Frame} {fs : List Frame} {base top ts : List ValueType} {u : Bool} {c : Checker}

def IsReachable (c : Checker) : Prop :=
  ∃ g fs, c.frames = g :: fs ∧ g.isUnreachable = false

/-! Taking operands where code can be reached. -/

theorem expect_of_reachable (hg : g.height = base.length) {want : ValueType}
    (h : expect (inBlock g fs base false top) want = .ok c) :
    ∃ t rest, top = t :: rest ∧ t.Fits want ∧ c = inBlock g fs base false rest := by
  obtain ⟨⟨got, c₁⟩, hpop, h⟩ := except_bind_ok_iff.mp h
  obtain rfl := except_pure_ok_iff.mp h
  obtain ⟨hpop, hfits⟩ := pop_of_popType hpop
  unfold inBlock at hpop
  rw [pop_eq (g := { g with isUnreachable := false }) hg] at hpop
  cases top with
  | nil => simp at hpop
  | cons t rest =>
    cases hpop
    exact ⟨got, rest, rfl, hfits, rfl⟩

theorem expectTop_of_reachable (hg : g.height = base.length)
    (h : expectTop ts (inBlock g fs base false top) = .ok c) :
    ∃ taken rest, top = taken ++ rest ∧ List.Forall₂ ValueType.Fits taken ts ∧
      c = inBlock g fs base false rest := by
  induction ts generalizing top with
  | nil =>
    obtain rfl : _ = c := by simpa [expectTop] using h
    exact ⟨[], top, rfl, .nil, rfl⟩
  | cons t ts ih =>
    obtain ⟨c₁, ht, h⟩ := except_bind_ok_iff.mp h
    obtain ⟨t', rest, rfl, hfits, rfl⟩ := expect_of_reachable hg ht
    obtain ⟨taken, rest', rfl, hall, rfl⟩ := ih h
    exact ⟨t' :: taken, rest', rfl, .cons hfits hall, rfl⟩

/-! Operands of known types. -/

/-- No open block has a type that is the mark for operands of unknown type, and the mark stands only
among operands of blocks whose code cannot be reached. -/
inductive Determined : Checker → Prop
  | nil (operands : List ValueType) : Determined ⟨operands, []⟩
  | cons (top : List ValueType) {base : List ValueType} {g : Frame} {fs : List Frame}
      (h : Determined ⟨base, fs⟩) (hg : g.height = base.length) (htype : g.type.Known)
      (htop : g.isUnreachable = false → ∀ t ∈ top, t ≠ .unknown) : Determined ⟨top ++ base, g :: fs⟩

theorem Determined.types (h : Determined c) : ∀ f ∈ c.frames, f.type.Known := by
  induction h with
  | nil => simp
  | cons _ _ _ htype _ ih => exact List.forall_mem_cons.mpr ⟨htype, ih⟩

theorem Determined.label (h : Determined c) {l : UInt32} (hl : c.label l = .ok ts) :
    ∀ t ∈ ts, t ≠ .unknown := by
  rw [label_eq_ok_iff, labels, List.getElem?_map] at hl
  obtain ⟨f, hf, rfl⟩ := Option.map_eq_some_iff.mp hl
  exact Frame.branchTypes_known (h.types f (List.mem_of_getElem? hf))

theorem Determined.known (h : Determined ⟨top ++ base, g :: fs⟩) (hg : g.height = base.length)
    (hr : g.isUnreachable = false) : ∀ t ∈ top, t ≠ .unknown := by
  generalize hoperands : top ++ base = operands at h
  cases h with
  | cons top' _ hg' _ htop =>
    obtain ⟨rfl, -⟩ := List.append_inj' hoperands (hg.symm.trans hg')
    exact htop hr

theorem Determined.inBlock (h : Determined ⟨base, fs⟩) (hg : g.height = base.length)
    (htype : g.type.Known) (top : List ValueType) (htop : u = false → ∀ t ∈ top, t ≠ .unknown) :
    Determined (Checker.inBlock g fs base u top) :=
  .cons top h hg htype htop

/-- What is left of known operands is known. -/
theorem Admits.rest_known {taken rest : List ValueType} (h : Admits u top (taken ++ rest))
    (htop : u = false → ∀ t ∈ top, t ≠ .unknown) : u = false → ∀ t ∈ rest, t ≠ .unknown := by
  intro hu t ht
  subst hu
  have htop := htop rfl
  rw [← h.eq_of_known htop] at htop
  exact htop t (by simp [ht])

end Checker

namespace Scope

open Checker

variable {s : Scope} {i : Instr} {g : Frame} {fs : List Frame} {base top : List ValueType}
  {u : Bool} {c d : Checker}

theorem tableLabels_eq_ok_iff {arity : Nat} {ls : List UInt32} :
    tableLabels c arity ls = .ok () ↔ ∀ l ∈ ls, ∃ ts, c.label l = .ok ts ∧ ts.length = arity := by
  induction ls with
  | nil => simp [tableLabels]
  | cons l ls ih =>
    rw [tableLabels, List.forall_mem_cons, except_bind_ok_iff]
    constructor
    · rintro ⟨ts, hts, h⟩
      split at h
      · rename_i hlen
        exact ⟨⟨ts, hts, hlen⟩, ih.mp h⟩
      · cases h
    · rintro ⟨⟨ts, hts, hlen⟩, h⟩
      exact ⟨ts, hts, by rw [if_pos hlen, ih.mpr h]⟩

/-- What the checker does with a branch table that it accepts. -/
theorem brTable_parts {ls : List UInt32} {l : UInt32}
    (h : s.step ⟨Op.brTable, .table ls l⟩ c = .ok d) :
    ∃ c₁ ts c₂, c.expect .i32 = .ok c₁ ∧ c.label l = .ok ts ∧
      (∀ k ∈ ls, ∃ ks, c.label k = .ok ks ∧ ks.length = ts.length) ∧
      c₁.expectAll ts = .ok c₂ ∧ d = c₂.abandon := by
  obtain ⟨c₁, hindex, h⟩ := except_bind_ok_iff.mp h
  obtain ⟨ts, hlabel, h⟩ := except_bind_ok_iff.mp h
  obtain ⟨_, hlisted, h⟩ := except_bind_ok_iff.mp h
  obtain ⟨c₂, hall, h⟩ := except_bind_ok_iff.mp h
  obtain rfl := except_pure_ok_iff.mp h
  have hsame : c₁.label = c.label := by
    funext k
    unfold label
    rw [frames_of_expect hindex]
  rw [hsame] at hlabel
  have hlisted := tableLabels_eq_ok_iff.mp hlisted
  rw [hsame] at hlisted
  exact ⟨c₁, ts, c₂, hindex, hlabel, hlisted, hall, rfl⟩

/-- Where code can be reached, the operands at a branch table suit the fallback label, and the listed
labels take as many of them. -/
theorem operands_of_brTable {ls : List UInt32} {l : UInt32} (hg : g.height = base.length)
    (h : s.step ⟨Op.brTable, .table ls l⟩ (inBlock g fs base false top) = .ok d) :
    ∃ index operands rest ts, top = index :: (operands ++ rest) ∧ index.Fits .i32 ∧
      (inBlock g fs base false top).label l = .ok ts ∧ Suit operands ts ∧
      ∀ k ∈ ls, ∃ ks, (inBlock g fs base false top).label k = .ok ks ∧ ks.length = ts.length := by
  obtain ⟨c₁, ts, c₂, hindex, hlabel, hlisted, hall, -⟩ := brTable_parts h
  obtain ⟨index, rest, rfl, hfits, rfl⟩ := expect_of_reachable hg hindex
  obtain ⟨operands, rest, rfl, hsuit, -⟩ := expectTop_of_reachable hg hall
  exact ⟨index, operands, rest, ts, rfl, hfits, hlabel, hsuit, hlisted⟩

/-! Accepted code keeps the operands known. -/

theorem determined_of_closes (hbase : Determined ⟨base, fs⟩) (htype : g.type.Known) :
    Determined ⟨g.type.results.reverse ++ base, fs⟩ := by
  cases hbase with
  | nil => exact .nil _
  | cons top h hg' htype' htop' =>
    rw [← List.append_assoc]
    refine .cons _ h hg' htype' fun hu t ht => ?_
    rcases List.mem_append.mp ht with ht | ht
    · exact htype.results t (List.mem_reverse.mp ht)
    · exact htop' hu t ht

section InBlock

variable (hbase : Determined ⟨base, fs⟩) (hg : g.height = base.length) (htype : g.type.Known)

include hbase hg htype

theorem determined_of_brTable (hw : i.WellShaped) (hi : i.op = Op.brTable)
    (h : s.step i (inBlock g fs base u top) = .ok d) : Determined d := by
  obtain ⟨op, imm⟩ := i
  obtain rfl : op = Op.brTable := hi
  have hshape : imm.shape = .table := (Option.some.inj hw).symm
  cases imm with
  | table ls l =>
    obtain ⟨c₁, ts, c₂, hindex, -, -, hall, rfl⟩ := brTable_parts h
    have hg' : ({ g with isUnreachable := u } : Frame).height = base.length := hg
    have hon : On base { g with isUnreachable := u } fs (inBlock g fs base u top) := ⟨top, rfl⟩
    rw [((hon.expect hg' hindex).expectAll hg' hall).abandon hg']
    exact hbase.inBlock hg htype [] (by simp)
  | _ => cases hshape

variable (hs : s.Known) (htop : u = false → ∀ t ∈ top, t ≠ .unknown)

include hs htop

theorem determined_of_opens {kind : FrameKind} {t : Int32}
    (h : s.blockStart kind t (inBlock g fs base u top) = .ok d) : Determined d := by
  obtain ⟨type, rest, hblock, rfl, hadmits⟩ := admits_of_blockStart hs hg h
  have hrest := (hadmits rest (.refl u rest)).rest_known htop
  have hknown := hblock.known hs.types
  refine (hbase.inBlock hg htype rest hrest).inBlock rfl hknown _ fun _ t ht => ?_
  exact hknown.params t (List.mem_reverse.mp ht)

theorem determined_of_plain (hw : i.WellShaped) (hplain : i.IsPlain)
    (h : s.step i (inBlock g fs base u top) = .ok d) : Determined d := by
  have hlabels : ∀ ts ∈ g.branchTypes :: fs.map Frame.branchTypes, ∀ t ∈ ts, t ≠ .unknown := by
    rw [List.forall_mem_cons, List.forall_mem_map]
    exact ⟨Frame.branchTypes_known htype, fun f hf => Frame.branchTypes_known (hbase.types f hf)⟩
  by_cases htable : i.op = Op.brTable
  · exact determined_of_brTable hbase hg htype hw htable h
  rcases typed_of_step hw hplain htable h with ⟨type, hi⟩ | ⟨ts, hi⟩ | rfl | rfl
  · rw [step_of_signature hi] at h
    obtain ⟨c₁, hexpect, h⟩ := except_bind_ok_iff.mp h
    obtain rfl := except_pure_ok_iff.mp h
    have hknown := hi.known hs hlabels
    obtain ⟨rest, rfl, hadmits⟩ :=
      admits_of_expectTop hg (by simpa using hknown.params) hexpect
    have hrest := (hadmits rest (.refl u rest)).rest_known htop
    rw [pushAll_inBlock]
    refine hbase.inBlock hg htype _ fun hu t ht => ?_
    rcases List.mem_append.mp ht with ht | ht
    · exact hknown.results t (List.mem_reverse.mp ht)
    · exact hrest hu t ht
  · rw [step_of_jumps hi] at h
    obtain ⟨c₁, hexpect, h⟩ := except_bind_ok_iff.mp h
    obtain rfl := except_pure_ok_iff.mp h
    obtain ⟨rest, rfl, -⟩ :=
      admits_of_expectTop hg (by simpa using hi.known hs hlabels) hexpect
    rw [abandon_inBlock hg]
    exact hbase.inBlock hg htype [] (by simp)
  · obtain ⟨⟨t, c₁⟩, hpop, h⟩ := except_bind_ok_iff.mp h
    obtain rfl := except_pure_ok_iff.mp h
    obtain ⟨rest, rfl, hadmits⟩ := admits_of_pop hg hpop
    have hall : Admits u top ([t] ++ rest) := hadmits t rest (.inl rfl) (.refl u rest)
    exact hbase.inBlock hg htype rest (hall.rest_known htop)
  · obtain ⟨c₁, hword, h⟩ := except_bind_ok_iff.mp h
    obtain ⟨⟨t₁, c₂⟩, hpop, h⟩ := except_bind_ok_iff.mp h
    obtain ⟨⟨t₂, c₃⟩, hpop', h⟩ := except_bind_ok_iff.mp h
    obtain rfl := except_pure_ok_iff.mp h
    obtain ⟨hpop', -⟩ := pop_of_popType hpop'
    obtain ⟨top₁, rfl, hadmits₁⟩ := admits_of_expect hg (by decide) hword
    obtain ⟨top₂, rfl, hadmits₂⟩ := admits_of_pop hg hpop
    obtain ⟨top₃, rfl, hadmits₃⟩ := admits_of_pop hg hpop'
    have hall : Admits u top ([.i32] ++ (t₁ :: t₂ :: top₃)) :=
      hadmits₁ _ (hadmits₂ t₁ _ (.inl rfl) (hadmits₃ t₂ _ (.inl rfl) (.refl u top₃)))
    have hrest := hall.rest_known htop
    -- The first operand taken is left where it is known, and in reached code it is.
    refine hbase.inBlock hg htype ((if t₁ = .unknown then t₂ else t₁) :: top₃) fun hu t ht => ?_
    rcases List.mem_cons.mp ht with rfl | ht
    · rw [if_neg (hrest hu t₁ (by simp))]
      exact hrest hu t₁ (by simp)
    · exact hrest hu t (by simp [ht])

end InBlock

theorem step_determined (hs : s.Known) (hw : i.WellShaped) (hne : c.frames ≠ []) (hc : Determined c)
    (h : s.step i c = .ok d) : Determined d := by
  cases hc with
  | nil => exact absurd rfl hne
  | @cons top base g fs hbase hg htype htop =>
    by_cases hplain : i.IsPlain
    · exact determined_of_plain (u := g.isUnreachable) hbase hg htype hs htop hw hplain h
    · obtain ⟨op, imm⟩ := i
      simp only [Instr.IsPlain, List.mem_cons, List.not_mem_nil, or_false, not_not] at hplain
      rcases hplain with rfl | rfl | rfl | rfl | rfl
      · obtain ⟨t, rfl⟩ := Instr.Opens.imm (.inl rfl) hw
        exact determined_of_opens (u := g.isUnreachable) hbase hg htype hs htop h
      · obtain ⟨t, rfl⟩ := Instr.Opens.imm (.inr (.inl rfl)) hw
        exact determined_of_opens (u := g.isUnreachable) hbase hg htype hs htop h
      · obtain ⟨t, rfl⟩ := Instr.Opens.imm (.inr (.inr rfl)) hw
        exact determined_of_opens (u := g.isUnreachable) hbase hg htype hs htop h
      · rw [Instr.imm_of_bare rfl hw] at h
        obtain ⟨-, -, rfl⟩ := admits_of_otherwise (u := g.isUnreachable) hg htype.results h
        refine hbase.inBlock (g := ⟨.otherwise, g.type, base.length, false⟩) rfl htype _
          fun _ t ht => ?_
        exact htype.params t (List.mem_reverse.mp ht)
      · rw [step_closes rfl hg ⟨top, rfl⟩ h]
        exact determined_of_closes hbase htype

theorem Checks.determined (hs : s.Known) {code : List Instr} (h : s.Checks code c d)
    (hw : ∀ i ∈ code, i.WellShaped) (hc : Determined c) : Determined d := by
  induction code generalizing c with
  | nil =>
    obtain rfl : c = d := h
    exact hc
  | cons i is ih =>
    obtain ⟨hne, e, hi, h⟩ := h
    rw [List.forall_mem_cons] at hw
    exact ih h hw.2 (step_determined hs hw.1 hne hc hi)

end Scope

namespace Module

open Checker

/-- At a branch table of an accepted body that can be reached, the operands are an index and what a
branch to the fallback label takes along. Every listed label takes as many operands, but of any
types: where no declared type is the mark for operands of unknown type, the operands suit it exactly
if its types are those of the fallback label. -/
theorem brTable_suits_fallback {m : Module} {n : Nat} {b : Body} {code before after : List Instr}
    {ls : List UInt32} {l : UInt32} (hm : m.checkBodies = .ok ()) (hb : m.bodies[n]? = some b)
    (hdecode : Instr.decodeAll b.code = .ok code)
    (hcode : code = before ++ ⟨Op.brTable, .table ls l⟩ :: after) :
    ∃ type c, m.funcType? (UInt32.ofNat (m.importedFuncs.length + n)) = some type ∧
      Scope.Checks ⟨m, type.params ++ b.localTypes, type.results⟩ before
        (Checker.enter {} .block { results := type.results }) c ∧
      (c.IsReachable → ∃ index operands rest ts,
        c.operands = index :: (operands ++ rest) ∧ index.Fits .i32 ∧
        c.label l = .ok ts ∧ Suit operands ts ∧
        ∀ k ∈ ls, ∃ ks, c.label k = .ok ks ∧ ks.length = ts.length ∧
          (m.Known → (∀ v ∈ b.locals, v.type ≠ .unknown) → (Suit operands ks ↔ ks = ts))) := by
  obtain ⟨type, htype, hbody⟩ := checkBody_of_getElem hm hb
  rw [importCount_func] at htype
  obtain ⟨code', hdecode', hbody⟩ := checkBody_eq_ok_iff.mp hbody
  obtain rfl := Except.ok.inj (hdecode.symm.trans hdecode')
  obtain ⟨final, hchecks⟩ := Scope.checkCode_eq_ok_iff.mp hbody
  subst hcode
  obtain ⟨c, hbefore, -, d, hstep, -⟩ := Scope.checks_append.mp hchecks
  have hw : ∀ i ∈ before, i.WellShaped := fun i hi =>
    ((Instr.decodeAll_ok hdecode).1 i (by simp [hi])).wellShaped
  refine ⟨type, c, htype, hbefore, ?_⟩
  rintro ⟨g, fs, hframes, hreach⟩
  -- The operands of the innermost block are told apart from those around it by its height.
  have hstacked := hbefore.stacked hw (.enter _)
  cases hstacked with
  | nil => cases hframes
  | @cons top base g' fs' hbase hg =>
    obtain ⟨rfl, rfl⟩ : g' = g ∧ fs' = fs := by simpa using hframes
    obtain ⟨kind, type', height, isUnreachable⟩ := g'
    obtain rfl : isUnreachable = false := hreach
    obtain ⟨index, operands, rest, ts, rfl, hindex, hlabel, hsuit, hlisted⟩ :=
      Scope.operands_of_brTable (g := ⟨kind, type', height, false⟩) hg hstep
    refine ⟨index, operands, rest ++ base, ts, by simp, hindex, hlabel, hsuit, ?_⟩
    intro k hk
    obtain ⟨ks, hks, hlen⟩ := hlisted k hk
    refine ⟨ks, hks, hlen, fun hknown hlocals => ?_⟩
    -- What has been accepted so far leaves known operands here, so that only equal types fit.
    have hmem := mem_types_of_funcType? htype
    have hdetermined := hbefore.determined (hknown.scope hmem hlocals) hw
      (.cons [] (.nil []) rfl ⟨by simp, (hknown.types type hmem).results⟩ (by simp))
    have hoperands : ∀ t ∈ operands, t ≠ .unknown := fun t ht =>
      hdetermined.known hg rfl t (by simp [ht])
    exact hsuit.iff_eq hoperands (hdetermined.label hlabel) (hdetermined.label hks)

/-- A table that leaves a block and a function, both with one word. -/
theorem brTable_suits_fallback_words :
    let m : Module :=
      { types := [⟨[], [.i32]⟩], funcs := [0]
        bodies := [{ code := [2, 127, 65, 7, 65, 0, 14, 2, 0, 1, 1, 11, 11] }] }
    let c : Checker := ⟨[.i32, .i32], [⟨.block, ⟨[], [.i32]⟩, 0, false⟩,
      ⟨.block, ⟨[], [.i32]⟩, 0, false⟩]⟩
    m.checkBodies = .ok () ∧ c.IsReachable ∧ ∃ index operands rest ts,
      c.operands = index :: (operands ++ rest) ∧ index.Fits .i32 ∧
      c.label 1 = .ok ts ∧ Suit operands ts ∧
      ∀ k ∈ [0, 1], ∃ ks, c.label k = .ok ks ∧ ks.length = ts.length ∧
        (m.Known → (∀ v ∈ ([] : List LocalRun), v.type ≠ .unknown) →
          (Suit operands ks ↔ ks = ts)) := by
  intro m c
  have hm : m.checkBodies = .ok () := rfl
  have hreach : c.IsReachable := ⟨_, _, rfl, rfl⟩
  have hcode : Instr.decodeAll [2, 127, 65, 7, 65, 0, 14, 2, 0, 1, 1, 11, 11] =
      .ok ([⟨Op.block, .block (-1)⟩, ⟨Op.i32Const, .i32 7⟩, ⟨Op.i32Const, .i32 0⟩] ++
        ⟨Op.brTable, .table [0, 1] 1⟩ :: [⟨Op.stop, .none⟩, ⟨Op.stop, .none⟩]) := rfl
  obtain ⟨type, c', htype, hchecks, hsuits⟩ := brTable_suits_fallback (n := 0) hm rfl hcode rfl
  obtain rfl : ⟨[], [.i32]⟩ = type := Option.some.inj htype
  obtain rfl : c = c' := Except.ok.inj ((Scope.stepsFrom_eq_ok_iff (n := 0)).mpr hchecks)
  exact ⟨hm, hreach, hsuits hreach⟩

/-- A table that leaves a function with a word and, listed, a block with a double word. It is accepted
with a word to take along. -/
theorem brTable_misses_listed_label :
    let m : Module :=
      { types := [⟨[], [.i32]⟩], funcs := [0]
        bodies := [{ code := [2, 126, 65, 7, 65, 0, 14, 1, 0, 1, 11, 167, 11] }] }
    let before : List Instr :=
      [⟨Op.block, .block (-2)⟩, ⟨Op.i32Const, .i32 7⟩, ⟨Op.i32Const, .i32 0⟩]
    let after : List Instr := [⟨Op.stop, .none⟩, ⟨Op.i32WrapI64, .none⟩, ⟨Op.stop, .none⟩]
    let c : Checker := ⟨[.i32, .i32], [⟨.block, ⟨[], [.i64]⟩, 0, false⟩,
      ⟨.block, ⟨[], [.i32]⟩, 0, false⟩]⟩
    m.checkStructure = .ok () ∧ m.checkBodies = .ok () ∧
      Instr.decodeAll [2, 126, 65, 7, 65, 0, 14, 1, 0, 1, 11, 167, 11] =
        .ok (before ++ ⟨Op.brTable, .table [0] 1⟩ :: after) ∧
      Scope.Checks ⟨m, [], [.i32]⟩ before (Checker.enter {} .block { results := [.i32] }) c ∧
      c.IsReachable ∧ c.label 0 = .ok [.i64] ∧
      ∀ index operands rest, c.operands = index :: (operands ++ rest) → ¬ Suit operands [.i64] := by
  intro m before after c
  have hchecks : Scope.Checks ⟨m, [], [.i32]⟩ before
      (Checker.enter {} .block { results := [.i32] }) c :=
    (Scope.stepsFrom_eq_ok_iff (n := 0)).mp rfl
  refine ⟨rfl, rfl, rfl, hchecks, ⟨_, _, rfl, rfl⟩, rfl, ?_⟩
  intro index operands rest hoperands hsuit
  obtain ⟨t, hfits, rfl⟩ : ∃ t : ValueType, t.Fits .i64 ∧ operands = [t] := by
    simpa [Suit, List.forall₂_cons_right_iff] using hsuit
  obtain ⟨-, rfl, -⟩ : _ ∧ ValueType.i32 = t ∧ _ := by simpa [c] using hoperands
  exact absurd hfits (by decide)

end Module
end TapeWasm.Wasm
