import Mathlib.Data.List.Basic
import TapeWasm.Fault

/-!
Wrapped faults. `Fault.preorder` lists the faults of a tree depth first, a fault before its causes,
and all searches in a tree are searches in this list: for the first stage fault, for its phase, and
for a fault that is asked for. A wrapped fault is therefore the first stage fault of its cause, or a
new one right above the cause, and nothing is found in it that is not in one of the two.
-/
namespace TapeWasm.Fault

def causes : Fault → List Fault
  | .plain _ => []
  | .context _ cause => [cause]
  | .join members => members
  | .stage _ cause => cause.toList

mutual

/-- The faults of a tree, depth first, a fault before its causes. -/
def preorder : Fault → List Fault
  | .plain text => [.plain text]
  | .context text cause => .context text cause :: cause.preorder
  | .join members => .join members :: preorderOf members
  | .stage label none => [.stage label none]
  | .stage label (some cause) => .stage label (some cause) :: cause.preorder

def preorderOf : List Fault → List Fault
  | [] => []
  | f :: fs => f.preorder ++ preorderOf fs

end

def isStage (f : Fault) : Bool :=
  f.label?.isSome

/-- Which faults are the very same one. Two different faults may read alike, but the same fault
always reads the same. -/
structure Sameness where
  same : Fault → Fault → Bool
  eq_of_same {f g : Fault} (h : same f g = true) : f = g

def Sameness.never : Sameness where
  same _ _ := false
  eq_of_same h := nomatch h

/-- Whether a fault without its causes is the one asked for: the very same fault, or a stage fault
whose label answers the question that the other asks. -/
def meets (s : Sameness) (f target : Fault) : Bool :=
  s.same f target || f.label?.any fun l => target.label?.any l.answers

/-- Whether a fault that is asked for is found in a tree. -/
def holds (s : Sameness) (f target : Fault) : Bool :=
  f.preorder.any (·.meets s target)

/-! Trees and their lists. -/

theorem preorderOf_eq (fs : List Fault) : preorderOf fs = fs.flatMap preorder := by
  induction fs with
  | nil => rfl
  | cons f fs ih => rw [preorderOf, ih, List.flatMap_cons]

theorem preorder_eq (f : Fault) : f.preorder = f :: f.causes.flatMap preorder := by
  cases f with
  | plain => rfl
  | context => simp [preorder, causes]
  | join => simp [preorder, causes, preorderOf_eq]
  | stage _ cause => cases cause <;> simp [preorder, causes]

mutual

/-- What a fault has from its causes, every fault has. -/
theorem induction_causes {motive : Fault → Prop}
    (step : ∀ f, (∀ g ∈ f.causes, motive g) → motive f) : ∀ f, motive f
  | .plain _ => step _ (by simp [causes])
  | .context _ cause => step _ (by simpa [causes] using induction_causes step cause)
  | .join members => step _ (induction_members step members)
  | .stage _ none => step _ (by simp [causes])
  | .stage _ (some cause) => step _ (by simpa [causes] using induction_causes step cause)

theorem induction_members {motive : Fault → Prop}
    (step : ∀ f, (∀ g ∈ f.causes, motive g) → motive f) : ∀ fs : List Fault, ∀ g ∈ fs, motive g
  | [] => by simp
  | f :: fs => by simpa using ⟨induction_causes step f, induction_members step fs⟩

end

theorem preorder_subset {f g : Fault} (h : g ∈ f.preorder) : g.preorder ⊆ f.preorder := by
  induction f using induction_causes with
  | step f ih =>
    rw [preorder_eq f] at h ⊢
    rcases List.mem_cons.mp h with rfl | h
    · rw [preorder_eq g]
      exact List.Subset.refl _
    · obtain ⟨c, hc, hg⟩ := List.mem_flatMap.mp h
      intro x hx
      exact List.mem_cons_of_mem _ (List.mem_flatMap.mpr ⟨c, hc, ih c hc hg hx⟩)

/-! Searches are searches in the list. -/

theorem stageOf?_eq {fs : List Fault} (h : ∀ f ∈ fs, f.stage? = f.preorder.find? isStage) :
    stageOf? fs = (fs.flatMap preorder).find? isStage := by
  induction fs with
  | nil => rfl
  | cons f fs ih =>
    have hf := h f List.mem_cons_self
    have hfs := ih fun g hg => h g (List.mem_cons_of_mem _ hg)
    rw [stageOf?, hf, hfs, List.flatMap_cons, List.find?_append]
    cases f.preorder.find? isStage <;> rfl

theorem stage?_eq (f : Fault) : f.stage? = f.preorder.find? isStage := by
  induction f using induction_causes with
  | step f ih =>
    rw [preorder_eq]
    cases f with
    | plain => rfl
    | context _ cause =>
      have hcause := ih cause (by simp [causes])
      simpa [stage?, causes, isStage, label?] using hcause
    | join members =>
      have hmembers := stageOf?_eq ih
      simpa [stage?, causes, isStage, label?] using hmembers
    | stage => rfl

theorem isSome_stage? (f : Fault) : f.stage?.isSome = f.preorder.any isStage := by
  rw [stage?_eq, Bool.eq_iff_iff, List.find?_isSome, List.any_eq_true]

theorem labelsOf_eq (fs : List Fault) : labelsOf fs = fs.flatMap labels := by
  induction fs with
  | nil => rfl
  | cons f fs ih => rw [labelsOf, ih, List.flatMap_cons]

theorem labels_eq (f : Fault) : f.labels = f.preorder.filterMap label? := by
  induction f using induction_causes with
  | step f ih =>
    have hcauses : f.causes.flatMap labels = (f.causes.flatMap preorder).filterMap label? := by
      rw [List.filterMap_flatMap]
      exact List.flatMap_congr ih
    rw [preorder_eq, List.filterMap_cons]
    cases f with
    | plain => rfl
    | context => simpa [labels, label?, causes] using hcauses
    | join => simpa [labels, label?, causes, labelsOf_eq] using hcauses
    | stage _ cause =>
      cases cause with
      | none => rfl
      | some => simpa [labels, label?, causes] using hcauses

/-- Where no fault is the same as another, only labels are compared. -/
theorem matchesLabel_eq_holds (f target : Fault) :
    f.matchesLabel target = f.holds .never target := by
  have hmeets (g : Fault) :
      g.meets .never target = g.label?.any fun l => target.label?.any l.answers := rfl
  simp only [matchesLabel, holds, hmeets, labels_eq]
  cases target.label? with
  | none =>
    symm
    simp
  | some question =>
    rw [Bool.eq_iff_iff]
    simp only [List.any_eq_true, List.mem_filterMap, Option.any_some, Option.any_eq_true]
    constructor
    · rintro ⟨l, ⟨g, hg, hl⟩, hanswers⟩
      exact ⟨g, hg, l, hl, hanswers⟩
    · rintro ⟨g, hg, l, hl, hanswers⟩
      exact ⟨l, ⟨g, hg, hl⟩, hanswers⟩

theorem holds_of_mem_preorder {s : Sameness} {f g target : Fault} (hg : g ∈ f.preorder)
    (h : g.holds s target = true) : f.holds s target = true := by
  obtain ⟨x, hx, hmeets⟩ := List.any_eq_true.mp h
  exact List.any_eq_true.mpr ⟨x, preorder_subset hg hx, hmeets⟩

/-! Stage faults and wrapping. -/

theorem stage?_of_isStage {f : Fault} (h : f.isStage = true) : f.stage? = some f := by
  cases f with
  | stage => rfl
  | plain | context | join => exact nomatch h

theorem stagePhase_of_stage? {f g : Fault} (h : f.stage? = some g) :
    f.stagePhase = g.stagePhase := by
  have hg : g.isStage = true := by
    rw [stage?_eq] at h
    exact List.find?_some h
  rw [stagePhase, stagePhase, h, stage?_of_isStage hg]

variable (phase : Phase) (kind : Kind) (detail : String)

theorem wrap_of_stage? {f g : Fault} (h : f.stage? = some g) :
    wrap phase kind (some f) detail = g := by
  simp [wrap, h]

theorem wrap_of_stage?_eq_none {f : Fault} (h : f.stage? = none) :
    wrap phase kind (some f) detail = .stage { phase, kind, detail } (some f) := by
  simp [wrap, h]

theorem isStage_wrap (cause : Option Fault) : (wrap phase kind cause detail).isStage = true := by
  unfold wrap
  split
  · rename_i g hg
    obtain ⟨f, -, hf⟩ := Option.bind_eq_some_iff.mp hg
    rw [stage?_eq] at hf
    exact List.find?_some hf
  · rfl

/-- A fault that is asked for and found right at a stage fault is that very fault or asks for its
phase, and then for its kind or for none. -/
theorem asks_of_meets {s : Sameness} {label : Label} {cause : Option Fault} {target : Fault}
    (h : (stage label cause).meets s target = true) :
    ∃ q, target.label? = some q ∧ q.phase = label.phase ∧ (q.kind = "" ∨ q.kind = label.kind) := by
  simp only [meets, label?, Bool.or_eq_true, Option.any_some, Option.any_eq_true] at h
  rcases h with hsame | ⟨q, hq, hanswers⟩
  · exact ⟨label, by rw [← s.eq_of_same hsame]; rfl, rfl, .inr rfl⟩
  · simp only [Label.answers, Bool.and_eq_true, Bool.or_eq_true, beq_iff_eq] at hanswers
    exact ⟨q, hq, hanswers.1.symm, hanswers.2.imp_right Eq.symm⟩

/-- What it means for a wrapped fault to keep the stage of its cause. -/
structure KeepsStage (cause wrapped : Fault) : Prop where
  /-- It is the first stage fault of the cause, or a new one above the cause. -/
  first : wrapped =
    (cause.preorder.find? isStage).getD (.stage { phase, kind, detail } (some cause))
  phase_eq : wrapped.stagePhase = if cause.preorder.any isStage then cause.stagePhase else phase
  again (phase' : Phase) (kind' : Kind) (detail' : String) :
    wrap phase' kind' (some wrapped) detail' = wrapped
  found {s : Sameness} {target : Fault} (h : wrapped.holds s target = true) :
    cause.holds s target = true ∨
      ∃ q, target.label? = some q ∧ q.phase = phase ∧ (q.kind = "" ∨ q.kind = kind)
  matched {target : Fault} (h : wrapped.matchesLabel target = true) :
    cause.matchesLabel target = true ∨
      ∃ q, target.label? = some q ∧ q.phase = phase ∧ (q.kind = "" ∨ q.kind = kind)

theorem found_of_wrap (cause : Fault) {s : Sameness} {target : Fault}
    (h : (wrap phase kind (some cause) detail).holds s target = true) :
    cause.holds s target = true ∨
      ∃ q, target.label? = some q ∧ q.phase = phase ∧ (q.kind = "" ∨ q.kind = kind) := by
  cases hstage : cause.stage? with
  | some g =>
    rw [wrap_of_stage? _ _ _ hstage] at h
    rw [stage?_eq] at hstage
    exact .inl (holds_of_mem_preorder (List.mem_of_find?_eq_some hstage) h)
  | none =>
    rw [wrap_of_stage?_eq_none _ _ _ hstage, holds, preorder_eq, List.any_cons, Bool.or_eq_true] at h
    rcases h with hnew | hcause
    · exact .inr (asks_of_meets hnew)
    · exact .inl (by simpa [holds, causes] using hcause)

/-- Whatever the stage, the kind and the detail that it is given, wrapping keeps the stage that a
fault already has, and names a stage only for faults that have none. -/
theorem wrap_keepsStage (cause : Fault) :
    KeepsStage phase kind detail cause (wrap phase kind (some cause) detail) where
  first := by
    rw [← stage?_eq]
    cases h : cause.stage? with
    | some g => exact wrap_of_stage? _ _ _ h
    | none => exact wrap_of_stage?_eq_none _ _ _ h
  phase_eq := by
    rw [← isSome_stage?]
    cases h : cause.stage? with
    | some g =>
      rw [wrap_of_stage? _ _ _ h]
      exact (stagePhase_of_stage? h).symm
    | none =>
      rw [wrap_of_stage?_eq_none _ _ _ h]
      rfl
  again _ _ _ := wrap_of_stage? _ _ _ (stage?_of_isStage (isStage_wrap phase kind detail _))
  found h := found_of_wrap phase kind detail cause h
  matched h := by
    simp only [matchesLabel_eq_holds] at h ⊢
    exact found_of_wrap phase kind detail cause h

example :
    let trap : Fault := .stage { phase := Phase.execute, kind := Kind.trap } (some (.plain "stop"))
    let late : Fault := .stage { phase := Phase.parse, kind := Kind.io } none
    wrap Phase.write Kind.io (some (.join [.plain "first", .context "second" trap, late])) "" =
      trap := rfl

end TapeWasm.Fault
