import TapeWasm.Proofs.Typing.Instructions
import TapeWasm.Proofs.Typing.Nesting
import TapeWasm.Wasm.Structure

/-!
The checker decides the typing rules: it accepts a body if and only if the body's code is properly
nested, closed by one last `end`, and well typed with the results of the function.
-/
namespace TapeWasm.Wasm

open Checker

/-- What a block takes on top of its parameters. -/
def FrameKind.condition : FrameKind → List ValueType
  | .ifThen => [.i32]
  | _ => []

theorem FrameKind.condition_ne_unknown (kind : FrameKind) :
    ∀ t ∈ kind.condition, t ≠ .unknown := by
  cases kind <;> decide

namespace Scope

variable {s : Scope} {g : Frame} {fs : List Frame} {base : List ValueType} {u : Bool}
  {top : List ValueType} {d : Checker}

/-! Opening and closing blocks. -/

theorem blockStart_eq (kind : FrameKind) (t : Int32) (c : Checker) :
    s.blockStart kind t c = (do
      let type ← s.module.blockType t
      let c ← c.expectAll (type.params ++ kind.condition)
      return c.enter kind type) := by
  unfold blockStart
  cases s.module.blockType t with
  | error f => rfl
  | ok type =>
    cases kind with
    | block | loop | otherwise =>
      change _ = (do
        let c ← c.expectAll (type.params ++ [])
        return c.enter _ type)
      rw [List.append_nil]
      rfl
    | ifThen =>
      change _ = (do
        let c ← c.expectAll (type.params ++ [ValueType.i32])
        return c.enter .ifThen type)
      rw [expectAll_concat]
      change (do
        let c ← c.expect .i32
        let c ← c.expectAll type.params
        return c.enter .ifThen type) = _
      cases c.expect .i32 <;> rfl

theorem blockStart_of_admits (hg : g.height = base.length) (kind : FrameKind) {t : Int32}
    {type : FuncType} {params rest : List ValueType} (ht : s.module.BlockType t type)
    (hparams : type.params ++ kind.condition = params) (h : Admits u top (params.reverse ++ rest)) :
    ∃ top', s.blockStart kind t (inBlock g fs base u top) =
        .ok (inBlock ⟨kind, type, (top' ++ base).length, false⟩
          ({ g with isUnreachable := u } :: fs) (top' ++ base) false type.params.reverse) ∧
      Admits u top' rest := by
  subst hparams
  obtain ⟨top', hexpect, hrest⟩ := expectTop_of_admits hg h
  refine ⟨top', ?_, hrest⟩
  rw [blockStart_eq]
  exact except_bind_ok_iff.mpr ⟨type, Module.blockType_eq_ok_iff.mpr ht,
    except_bind_ok_iff.mpr ⟨_, hexpect, rfl⟩⟩

theorem admits_of_blockStart (hs : s.Known) (hg : g.height = base.length) {kind : FrameKind}
    {t : Int32} (h : s.blockStart kind t (inBlock g fs base u top) = .ok d) :
    ∃ type top', s.module.BlockType t type ∧
      d = inBlock ⟨kind, type, (top' ++ base).length, false⟩
        ({ g with isUnreachable := u } :: fs) (top' ++ base) false type.params.reverse ∧
      ∀ rest, Admits u top' rest →
        Admits u top ((type.params ++ kind.condition).reverse ++ rest) := by
  rw [blockStart_eq] at h
  obtain ⟨type, htype, h⟩ := except_bind_ok_iff.mp h
  obtain ⟨c₁, hexpect, h⟩ := except_bind_ok_iff.mp h
  obtain rfl := except_pure_ok_iff.mp h
  have hblock := Module.blockType_eq_ok_iff.mp htype
  have hknown : ∀ t ∈ (type.params ++ kind.condition).reverse, t ≠ .unknown := by
    intro t ht
    rcases List.mem_append.mp (List.mem_reverse.mp ht) with ht | ht
    · exact (hblock.known hs.types).params t ht
    · exact kind.condition_ne_unknown t ht
  obtain ⟨top', rfl, hadmits⟩ := admits_of_expectTop hg hknown hexpect
  exact ⟨type, top', hblock, rfl, hadmits⟩

theorem stop_of_admits (hg : g.height = base.length) (h : Admits u top g.type.results.reverse)
    (hone : g.kind = .ifThen → g.type.params = g.type.results) :
    s.step ⟨Op.stop, .none⟩ (inBlock g fs base u top) =
      .ok ⟨g.type.results.reverse ++ base, fs⟩ := by
  refine except_bind_ok_iff.mpr ⟨_, leave_of_admits hg h, if_neg ?_⟩
  rintro ⟨hkind, hne⟩
  exact hne (hone hkind)

theorem admits_of_stop (hg : g.height = base.length) (hr : ∀ t ∈ g.type.results, t ≠ .unknown)
    (h : s.step ⟨Op.stop, .none⟩ (inBlock g fs base u top) = .ok d) :
    d = ⟨g.type.results.reverse ++ base, fs⟩ ∧ Admits u top g.type.results.reverse ∧
      (g.kind = .ifThen → g.type.params = g.type.results) := by
  obtain ⟨⟨f, c₁⟩, hleave, h⟩ := except_bind_ok_iff.mp h
  obtain ⟨rfl, rfl, hadmits⟩ := admits_of_leave hg hr hleave
  simp only at h
  split at h
  · cases h
  · rename_i hone
    cases h
    refine ⟨rfl, hadmits, fun hkind => ?_⟩
    exact Decidable.byContradiction fun hne => hone ⟨hkind, hne⟩

theorem otherwise_of_admits (hg : g.height = base.length)
    (h : Admits u top g.type.results.reverse) (hkind : g.kind = .ifThen) :
    s.step ⟨Op.otherwise, .none⟩ (inBlock g fs base u top) =
      .ok (inBlock ⟨.otherwise, g.type, base.length, false⟩ fs base false
        g.type.params.reverse) :=
  except_bind_ok_iff.mpr ⟨_, leave_of_admits hg h, if_pos hkind⟩

theorem admits_of_otherwise (hg : g.height = base.length)
    (hr : ∀ t ∈ g.type.results, t ≠ .unknown)
    (h : s.step ⟨Op.otherwise, .none⟩ (inBlock g fs base u top) = .ok d) :
    g.kind = .ifThen ∧ Admits u top g.type.results.reverse ∧
      d = inBlock ⟨.otherwise, g.type, base.length, false⟩ fs base false g.type.params.reverse := by
  obtain ⟨⟨f, c₁⟩, hleave, h⟩ := except_bind_ok_iff.mp h
  obtain ⟨rfl, rfl, hadmits⟩ := admits_of_leave hg hr hleave
  simp only at h
  split at h
  · rename_i hkind
    cases h
    exact ⟨hkind, hadmits, rfl⟩
  · cases h

/-- What a closed block has left lies on the operands of the block around it. -/
theorem inBlock_append (ts : List ValueType) :
    inBlock g fs base u (ts ++ top) =
      ⟨ts ++ (top ++ base), { g with isUnreachable := u } :: fs⟩ := by
  rw [inBlock, List.append_assoc]

/-! Well-typed code is accepted. -/

/-- Code that is accepted in a block of its own. -/
def Fills (s : Scope) (body : List Instr) (kind : FrameKind) (type : FuncType)
    (fs : List Frame) : Prop :=
  ∀ base, ∃ u top, s.Checks body
      (inBlock ⟨kind, type, base.length, false⟩ fs base false type.params.reverse)
      (inBlock ⟨kind, type, base.length, false⟩ fs base u top) ∧
    Admits u top type.results.reverse

/-- A block whose body is accepted takes its parameters and leaves its results. -/
theorem checks_block (kind : FrameKind) {i : Instr} {t : Int32}
    (hi : ∀ c, s.step i c = s.blockStart kind t c) (hg : g.height = base.length)
    {type : FuncType} {params below : List ValueType} (ht : s.module.BlockType t type)
    (hparams : type.params ++ kind.condition = params)
    (htop : Admits u top (below ++ params).reverse)
    (hone : kind = .ifThen → type.params = type.results) {body : List Instr}
    (hbody : s.Fills body kind type ({ g with isUnreachable := u } :: fs)) :
    ∃ top', Admits u top' (below ++ type.results).reverse ∧
      ∀ next e, s.Checks next (inBlock g fs base u top') e →
        s.Checks (i :: (body ++ ⟨Op.stop, .none⟩ :: next)) (inBlock g fs base u top) e := by
  rw [List.reverse_append] at htop
  obtain ⟨top₁, hstart, hbelow⟩ := blockStart_of_admits hg kind ht hparams htop
  obtain ⟨u₂, top₂, hchecks, hresults⟩ := hbody (top₁ ++ base)
  rw [List.reverse_append]
  refine ⟨type.results.reverse ++ top₁, hbelow.append _, fun next e hnext => ?_⟩
  rw [inBlock_append] at hnext
  refine ⟨List.cons_ne_nil _ _, _, (hi _).trans hstart, ?_⟩
  exact checks_append.mpr
    ⟨_, hchecks, List.cons_ne_nil _ _, _, stop_of_admits rfl hresults hone, hnext⟩

/-- The same for a block with two bodies, of which the second one follows an `else`. -/
theorem checks_ifElse (hg : g.height = base.length) {t : Int32} {type : FuncType}
    {below : List ValueType} (ht : s.module.BlockType t type)
    (htop : Admits u top (below ++ (type.params ++ [ValueType.i32])).reverse)
    {body other : List Instr}
    (hbody : s.Fills body .ifThen type ({ g with isUnreachable := u } :: fs))
    (hother : s.Fills other .otherwise type ({ g with isUnreachable := u } :: fs)) :
    ∃ top', Admits u top' (below ++ type.results).reverse ∧
      ∀ next e, s.Checks next (inBlock g fs base u top') e →
        s.Checks (⟨Op.ifThen, .block t⟩ :: (body ++ ⟨Op.otherwise, .none⟩ ::
          (other ++ ⟨Op.stop, .none⟩ :: next))) (inBlock g fs base u top) e := by
  rw [List.reverse_append] at htop
  obtain ⟨top₁, hstart, hbelow⟩ := blockStart_of_admits hg .ifThen ht rfl htop
  obtain ⟨u₂, top₂, hchecks, hresults⟩ := hbody (top₁ ++ base)
  obtain ⟨u₃, top₃, hchecks', hresults'⟩ := hother (top₁ ++ base)
  rw [List.reverse_append]
  refine ⟨type.results.reverse ++ top₁, hbelow.append _, fun next e hnext => ?_⟩
  rw [inBlock_append] at hnext
  refine ⟨List.cons_ne_nil _ _, _, hstart, ?_⟩
  refine checks_append.mpr
    ⟨_, hchecks, List.cons_ne_nil _ _, _, otherwise_of_admits rfl hresults rfl, ?_⟩
  exact checks_append.mpr ⟨_, hchecks', List.cons_ne_nil _ _, _,
    stop_of_admits rfl hresults' FrameKind.noConfusion, hnext⟩

end Scope

/-- Well-typed code is accepted where there may be the operands that it takes. -/
theorem Expr.HasType.checks {s : Scope} {labels : List (List ValueType)} {e : Expr}
    {ts out : List ValueType} (h : e.HasType s labels ts out) {g : Frame} {fs : List Frame}
    {base : List ValueType} {u : Bool} {top : List ValueType} (hg : g.height = base.length)
    (hlabels : labels = g.branchTypes :: fs.map Frame.branchTypes)
    (htop : Admits u top ts.reverse) :
    ∃ u' top', s.Checks e.code (inBlock g fs base u top) (inBlock g fs base u' top') ∧
      Admits u' top' out.reverse := by
  induction h generalizing g fs base u top with
  | nil labels ts => exact ⟨u, top, rfl, htop⟩
  | plain below hi hnext ih =>
    subst hlabels
    rw [List.reverse_append] at htop
    obtain ⟨u₁, top₁, hstep, htop₁⟩ := Scope.step_of_hasType hg hi htop
    rw [← List.reverse_append] at htop₁
    obtain ⟨u', top', hchecks, hout⟩ := ih hg rfl htop₁
    exact ⟨u', top', ⟨List.cons_ne_nil _ _, _, hstep, hchecks⟩, hout⟩
  | block below ht _ _ ihbody ihnext =>
    subst hlabels
    obtain ⟨top₁, htop₁, hgo⟩ := Scope.checks_block .block
      (i := ⟨Op.block, .block _⟩) (fun _ => rfl) hg ht
      (List.append_nil _) htop FrameKind.noConfusion fun base' => ihbody rfl rfl (.refl _ _)
    obtain ⟨u', top', hchecks, hout⟩ := ihnext hg rfl htop₁
    exact ⟨u', top', hgo _ _ hchecks, hout⟩
  | loop below ht _ _ ihbody ihnext =>
    subst hlabels
    obtain ⟨top₁, htop₁, hgo⟩ := Scope.checks_block .loop
      (i := ⟨Op.loop, .block _⟩) (fun _ => rfl) hg ht
      (List.append_nil _) htop FrameKind.noConfusion fun base' => ihbody rfl rfl (.refl _ _)
    obtain ⟨u', top', hchecks, hout⟩ := ihnext hg rfl htop₁
    exact ⟨u', top', hgo _ _ hchecks, hout⟩
  | ifThen below ht hsame _ _ ihbody ihnext =>
    subst hlabels
    obtain ⟨top₁, htop₁, hgo⟩ := Scope.checks_block .ifThen
      (i := ⟨Op.ifThen, .block _⟩) (fun _ => rfl) hg ht
      rfl htop (fun _ => hsame) fun base' => ihbody rfl rfl (.refl _ _)
    obtain ⟨u', top', hchecks, hout⟩ := ihnext hg rfl htop₁
    exact ⟨u', top', hgo _ _ hchecks, hout⟩
  | ifElse below ht _ _ _ ihbody ihother ihnext =>
    subst hlabels
    obtain ⟨top₁, htop₁, hgo⟩ := Scope.checks_ifElse hg ht htop
      (fun base' => ihbody rfl rfl (.refl _ _)) fun base' => ihother rfl rfl (.refl _ _)
    obtain ⟨u', top', hchecks, hout⟩ := ihnext hg rfl htop₁
    exact ⟨u', top', hgo _ _ hchecks, hout⟩

/-! Accepted code is properly nested and well typed. -/

namespace Expr

/-- If the operands after the code may be of given types, those before it may be of types that the
rules take to these. -/
def Explains (s : Scope) (labels : List (List ValueType)) (e : Expr) (u : Bool)
    (top : List ValueType) (u' : Bool) (top' : List ValueType) : Prop :=
  ∀ out, Admits u' top' out.reverse → ∃ ts, Admits u top ts.reverse ∧ e.HasType s labels ts out

variable {s : Scope} {labels : List (List ValueType)} {u u₁ u' : Bool}
  {top top₁ top' : List ValueType} {body other next : Expr} {t : Int32} {type : FuncType}

theorem Explains.nil : Explains s labels .nil u top u top :=
  fun out hout => ⟨out, hout, .nil labels out⟩

theorem Explains.plain {i : Instr} {h : i.IsPlain}
    (hi : ∀ ts, Admits u₁ top₁ ts → ∃ params results rest, i.HasType s labels params results ∧
      ts = results.reverse ++ rest ∧ Admits u top (params.reverse ++ rest))
    (hnext : Explains s labels next u₁ top₁ u' top') :
    Explains s labels (.plain i h next) u top u' top' := by
  intro out hout
  obtain ⟨mid, hmid, htyped⟩ := hnext out hout
  obtain ⟨params, results, rest, hi, hsplit, hparams⟩ := hi _ hmid
  obtain rfl : mid = rest.reverse ++ results := by
    rw [← List.reverse_inj, hsplit, List.reverse_append, List.reverse_reverse]
  refine ⟨rest.reverse ++ params, ?_, .plain rest.reverse hi htyped⟩
  rwa [List.reverse_append, List.reverse_reverse]

/-- After a block there are its results, and below them what was there before. -/
theorem Explains.closed {e : Expr} {params : List ValueType}
    (hresults : ∀ t ∈ type.results, t ≠ .unknown)
    (hparams : ∀ rest, Admits u top₁ rest → Admits u top (params.reverse ++ rest))
    (hnext : Explains s labels next u (type.results.reverse ++ top₁) u' top')
    (he : ∀ below out, next.HasType s labels (below ++ type.results) out →
      e.HasType s labels (below ++ params) out) :
    Explains s labels e u top u' top' := by
  intro out hout
  obtain ⟨mid, hmid, htyped⟩ := hnext out hout
  obtain ⟨rest, hsplit, hrest⟩ := hmid.of_known (by simpa using hresults)
  obtain rfl : mid = rest.reverse ++ type.results := by
    rw [← List.reverse_inj, hsplit, List.reverse_append, List.reverse_reverse]
  refine ⟨rest.reverse ++ params, ?_, he rest.reverse out htyped⟩
  rw [List.reverse_append, List.reverse_reverse]
  exact hparams rest hrest

/-- Code that explains how a block's results came from its parameters has the type of the block. -/
theorem Explains.hasType (h : Explains s labels body false type.params.reverse u' top')
    (hparams : ∀ t ∈ type.params, t ≠ .unknown) (htop : Admits u' top' type.results.reverse) :
    body.HasType s labels type.params type.results := by
  obtain ⟨ts, hts, htyped⟩ := h _ htop
  have heq := hts.eq_of_known (by simpa using hparams)
  rw [List.reverse_inj] at heq
  rwa [heq] at htyped

end Expr

theorem Frame.branchTypes_known {f : Frame} (h : f.type.Known) :
    ∀ t ∈ f.branchTypes, t ≠ .unknown := by
  unfold Frame.branchTypes
  split
  · exact h.params
  · exact h.results

namespace Scope

/-- Code that is accepted in a block is nested code up to what closes the block or its first
part. -/
def Parses (s : Scope) (code : List Instr) : Prop :=
  ∀ ⦃g : Frame⦄ ⦃fs : List Frame⦄ ⦃base : List ValueType⦄ ⦃u : Bool⦄ ⦃top final : List ValueType⦄,
    g.height = base.length → (∀ f ∈ g :: fs, f.type.Known) →
    s.Checks code (inBlock g fs base u top) ⟨final, []⟩ →
    ∃ e j rest u' top', code = Expr.code e ++ j :: rest ∧
      (j = ⟨Op.stop, .none⟩ ∨ j = ⟨Op.otherwise, .none⟩) ∧
      s.Checks (j :: rest) (inBlock g fs base u' top') ⟨final, []⟩ ∧
      e.Explains s (g.branchTypes :: fs.map Frame.branchTypes) u top u' top'

variable {s : Scope} {code : List Instr} {fs : List Frame} {base final : List ValueType}

/-- A block's body is well typed, and either its end or an `else` follows. -/
theorem Parses.block (h : s.Parses code) {kind : FrameKind} {type : FuncType}
    (htype : type.Known) (hfs : ∀ f ∈ fs, f.type.Known)
    (hchecks : s.Checks code
      (inBlock ⟨kind, type, base.length, false⟩ fs base false type.params.reverse) ⟨final, []⟩) :
    ∃ body rest, Expr.HasType s
        (Frame.branchTypes ⟨kind, type, base.length, false⟩ :: fs.map Frame.branchTypes) body
        type.params type.results ∧
      ((code = body.code ++ ⟨Op.stop, .none⟩ :: rest ∧
          (kind = .ifThen → type.params = type.results) ∧
          s.Checks rest ⟨type.results.reverse ++ base, fs⟩ ⟨final, []⟩) ∨
        (code = body.code ++ ⟨Op.otherwise, .none⟩ :: rest ∧ kind = .ifThen ∧
          s.Checks rest (inBlock ⟨.otherwise, type, base.length, false⟩ fs base false
            type.params.reverse) ⟨final, []⟩)) := by
  obtain ⟨body, j, rest, u', top', hcode, hj, ⟨-, d, hstep, hrest⟩, hbody⟩ :=
    h (g := ⟨kind, type, base.length, false⟩) rfl (List.forall_mem_cons.mpr ⟨htype, hfs⟩) hchecks
  rcases hj with rfl | rfl
  · obtain ⟨rfl, htop, hone⟩ := admits_of_stop rfl htype.results hstep
    exact ⟨body, rest, hbody.hasType htype.params htop, .inl ⟨hcode, hone, hrest⟩⟩
  · obtain ⟨hkind, htop, rfl⟩ := admits_of_otherwise rfl htype.results hstep
    exact ⟨body, rest, hbody.hasType htype.params htop, .inr ⟨hcode, hkind, hrest⟩⟩

variable {i : Instr} {rest : List Instr}

theorem parses_closing (hi : i = ⟨Op.stop, .none⟩ ∨ i = ⟨Op.otherwise, .none⟩) :
    s.Parses (i :: rest) := by
  intro g fs base u top final hg hknown hchecks
  exact ⟨.nil, i, rest, u, top, rfl, hi, hchecks, .nil⟩

theorem parses_plain (hs : s.Known) (hw : i.WellShaped) (hplain : i.IsPlain)
    (htable : i.op ≠ Op.brTable) (ih : s.Parses rest) : s.Parses (i :: rest) := by
  intro g fs base u top final hg hknown hchecks
  obtain ⟨-, d, hstep, hchecks⟩ := hchecks
  have hlabels : ∀ ts ∈ g.branchTypes :: fs.map Frame.branchTypes, ∀ t ∈ ts, t ≠ .unknown := by
    rw [← List.map_cons, List.forall_mem_map]
    exact fun f hf => Frame.branchTypes_known (hknown f hf)
  obtain ⟨u₁, top₁, rfl, htyped⟩ := hasType_of_step hs hg hlabels hw hplain htable hstep
  obtain ⟨e, j, rest', u', top', rfl, hj, hrest, hexplains⟩ := ih hg hknown hchecks
  exact ⟨.plain i hplain e, j, rest', u', top', rfl, hj, hrest, .plain htyped hexplains⟩

/-- Code that starts with a block: its body, and then the rest of the code in the block around it,
or the code after an `else`. -/
theorem Parses.opening (hs : s.Known) (ih : s.Parses rest) {g : Frame} {u : Bool}
    {top : List ValueType} (kind : FrameKind) {t : Int32}
    (hi : ∀ c, s.step i c = s.blockStart kind t c) (hg : g.height = base.length)
    (hknown : ∀ f ∈ g :: fs, f.type.Known)
    (hchecks : s.Checks (i :: rest) (inBlock g fs base u top) ⟨final, []⟩) :
    ∃ type top₁ body rest₁, s.module.BlockType t type ∧
      (∀ ts, Admits u top₁ ts → Admits u top ((type.params ++ kind.condition).reverse ++ ts)) ∧
      Expr.HasType s (Frame.branchTypes ⟨kind, type, 0, false⟩ :: g.branchTypes ::
        fs.map Frame.branchTypes) body type.params type.results ∧
      ((rest = body.code ++ ⟨Op.stop, .none⟩ :: rest₁ ∧
          (kind = .ifThen → type.params = type.results) ∧
          s.Checks rest₁ (inBlock g fs base u (type.results.reverse ++ top₁)) ⟨final, []⟩) ∨
        (rest = body.code ++ ⟨Op.otherwise, .none⟩ :: rest₁ ∧ kind = .ifThen ∧
          s.Checks rest₁ (inBlock ⟨.otherwise, type, (top₁ ++ base).length, false⟩
            ({ g with isUnreachable := u } :: fs) (top₁ ++ base) false type.params.reverse)
            ⟨final, []⟩)) := by
  obtain ⟨-, d, hstep, hchecks⟩ := hchecks
  rw [hi] at hstep
  obtain ⟨type, top₁, ht, rfl, hparams⟩ := admits_of_blockStart hs hg hstep
  have hknown' : ∀ f ∈ { g with isUnreachable := u } :: fs, f.type.Known :=
    List.forall_mem_cons.mpr (List.forall_mem_cons.mp hknown)
  obtain ⟨body, rest₁, hbody, hend⟩ := ih.block (ht.known hs.types) hknown' hchecks
  rw [← inBlock_append] at hend
  exact ⟨type, top₁, body, rest₁, ht, hparams, hbody, hend⟩

/-- All accepted code is nested, whatever block it stands in. -/
theorem parses (hs : s.Known) (hcode : ∀ i ∈ code, i.WellShaped ∧ i.op ≠ Op.brTable) :
    s.Parses code := by
  obtain ⟨n, hn⟩ : ∃ n, code.length ≤ n := ⟨_, Nat.le_refl _⟩
  -- The code after a block is no tail of what the induction is on, so it goes by the length.
  induction n generalizing code with
  | zero =>
    intro g fs base u top final hg hknown hchecks
    obtain rfl := List.eq_nil_of_length_eq_zero (Nat.le_zero.mp hn)
    cases hchecks
  | succ n ih =>
  cases code with
  | nil =>
    intro g fs base u top final hg hknown hchecks
    cases hchecks
  | cons i rest =>
  rw [List.length_cons, Nat.add_le_add_iff_right] at hn
  rw [List.forall_mem_cons] at hcode
  obtain ⟨⟨hw, htable⟩, hcode⟩ := hcode
  have hparses := ih hcode hn
  have hafter {a b : List Instr} {j : Instr} (hab : rest = a ++ j :: b) : s.Parses b := by
    subst hab
    refine ih (fun i hi => hcode i (by simp [hi])) ?_
    rw [List.length_append, List.length_cons] at hn
    omega
  by_cases hplain : i.IsPlain
  · exact parses_plain hs hw hplain htable hparses
  obtain ⟨op, imm⟩ := i
  simp only [Instr.IsPlain, List.mem_cons, List.not_mem_nil, or_false, not_not] at hplain
  rcases hplain with rfl | rfl | rfl | rfl | rfl
  · obtain ⟨t, rfl⟩ := Instr.Opens.imm (.inl rfl) hw
    intro g fs base u top final hg hknown hchecks
    obtain ⟨type, top₁, body, rest₁, ht, hparams, hbody, ⟨hrest, -, hend⟩ | ⟨-, hkind, -⟩⟩ :=
      hparses.opening hs .block (fun _ => rfl) hg hknown hchecks
    · obtain ⟨next, j, rest₂, u', top', rfl, hj, hclose, hnext⟩ := hafter hrest hg hknown hend
      simp only [FrameKind.condition, List.append_nil] at hparams
      refine ⟨.block t body next, j, rest₂, u', top', by simp [hrest, Expr.code], hj, hclose, ?_⟩
      exact .closed (ht.known hs.types).results hparams hnext fun below out =>
        .block below ht hbody
    · cases hkind
  · obtain ⟨t, rfl⟩ := Instr.Opens.imm (.inr (.inl rfl)) hw
    intro g fs base u top final hg hknown hchecks
    obtain ⟨type, top₁, body, rest₁, ht, hparams, hbody, ⟨hrest, -, hend⟩ | ⟨-, hkind, -⟩⟩ :=
      hparses.opening hs .loop (fun _ => rfl) hg hknown hchecks
    · obtain ⟨next, j, rest₂, u', top', rfl, hj, hclose, hnext⟩ := hafter hrest hg hknown hend
      simp only [FrameKind.condition, List.append_nil] at hparams
      refine ⟨.loop t body next, j, rest₂, u', top', by simp [hrest, Expr.code], hj, hclose, ?_⟩
      exact .closed (ht.known hs.types).results hparams hnext fun below out =>
        .loop below ht hbody
    · cases hkind
  · obtain ⟨t, rfl⟩ := Instr.Opens.imm (.inr (.inr rfl)) hw
    intro g fs base u top final hg hknown hchecks
    obtain ⟨type, top₁, body, rest₁, ht, hparams, hbody, ⟨hrest, hone, hend⟩ | ⟨hrest, -, hend⟩⟩ :=
      hparses.opening hs .ifThen (fun _ => rfl) hg hknown hchecks
    · obtain ⟨next, j, rest₂, u', top', rfl, hj, hclose, hnext⟩ := hafter hrest hg hknown hend
      refine ⟨.ifThen t body next, j, rest₂, u', top', by simp [hrest, Expr.code], hj, hclose, ?_⟩
      exact .closed (ht.known hs.types).results hparams hnext fun below out =>
        .ifThen below ht (hone rfl) hbody
    · have hknown' : ∀ f ∈ { g with isUnreachable := u } :: fs, f.type.Known :=
        List.forall_mem_cons.mpr (List.forall_mem_cons.mp hknown)
      obtain ⟨other, rest₂, hother, ⟨hrest₂, -, hend⟩ | ⟨-, hkind, -⟩⟩ :=
        (hafter hrest).block (ht.known hs.types) hknown' hend
      · rw [← inBlock_append] at hend
        have hall : rest =
            (body.code ++ ⟨Op.otherwise, .none⟩ :: other.code) ++ ⟨Op.stop, .none⟩ :: rest₂ := by
          simp [hrest, hrest₂]
        obtain ⟨next, j, rest₃, u', top', rfl, hj, hclose, hnext⟩ := hafter hall hg hknown hend
        refine ⟨.ifElse t body other next, j, rest₃, u', top', by simp [hall, Expr.code], hj,
          hclose, ?_⟩
        exact .closed (ht.known hs.types).results hparams hnext fun below out =>
          .ifElse below ht hbody hother
      · cases hkind
  · exact parses_closing (.inr (by rw [Instr.imm_of_bare rfl hw]))
  · exact parses_closing (.inl (by rw [Instr.imm_of_bare rfl hw]))

/-- Code is accepted if and only if it is nested code with the function's results, and one `end`. -/
theorem checkCode_iff_hasType (hs : s.Known)
    (hcode : ∀ i ∈ code, i.WellShaped ∧ i.op ≠ Op.brTable) :
    s.checkCode code = .ok () ↔ ∃ e : Expr, code = e.code ++ [⟨Op.stop, .none⟩] ∧
      e.HasType s [s.results] [] s.results := by
  have hresults : FuncType.Known { results := s.results } := ⟨by simp, hs.results⟩
  rw [checkCode_eq_ok_iff]
  constructor
  · rintro ⟨final, hchecks⟩
    obtain ⟨body, rest, hbody, ⟨rfl, -, hrest⟩ | ⟨-, hkind, -⟩⟩ :=
      (parses hs hcode).block hresults (List.forall_mem_nil _) hchecks
    · -- No block is open, so that nothing can follow.
      cases rest with
      | nil => exact ⟨body, rfl, hbody⟩
      | cons i is => exact absurd rfl hrest.1
    · cases hkind
  · rintro ⟨e, rfl, he⟩
    have hlabels : [s.results] = Frame.branchTypes ⟨.block, { results := s.results }, 0, false⟩ ::
        [].map Frame.branchTypes := rfl
    obtain ⟨u, top, hchecks, htop⟩ := he.checks List.length_nil.symm hlabels .nil
    refine ⟨s.results.reverse ++ [],
      checks_append.mpr ⟨_, hchecks, List.cons_ne_nil _ _, _, ?_, rfl⟩⟩
    exact stop_of_admits rfl htop FrameKind.noConfusion

end Scope

theorem Expr.eq_nil_of_code {e : Expr} (h : e.code = []) : e = .nil := by
  cases e with
  | nil => rfl
  | _ => simp [Expr.code] at h

theorem Expr.HasType.of_nil {s : Scope} {labels : List (List ValueType)}
    {ts out : List ValueType} (he : Expr.nil.HasType s labels ts out) : ts = out := by
  cases he
  rfl

theorem Expr.HasType.of_plain {s : Scope} {labels : List (List ValueType)} {i : Instr}
    {h : i.IsPlain} {next : Expr} {ts out : List ValueType}
    (he : (Expr.plain i h next).HasType s labels ts out) :
    ∃ below params results, ts = below ++ params ∧ i.HasType s labels params results ∧
      next.HasType s labels (below ++ results) out := by
  cases he with
  | plain below hi hnext => exact ⟨below, _, _, rfl, hi, hnext⟩

theorem Instr.HasType.of_i32Const {s : Scope} {labels : List (List ValueType)} {k : Int32}
    {params results : List ValueType}
    (h : HasType s labels ⟨Op.i32Const, .i32 k⟩ params results) :
    params = [] ∧ results = [.i32] := by
  cases h with
  | fixed h =>
    cases h
    exact ⟨rfl, rfl⟩
  | jump h => cases h

namespace Module

/-- No declared type is the mark for operands of unknown type. -/
structure Known (m : Module) : Prop where
  types : ∀ type ∈ m.types, type.Known
  imports : ∀ g, some g ∈ m.importedGlobals → g.value ≠ .unknown
  globals : ∀ g ∈ m.globals, g.type.value ≠ .unknown

variable {m : Module} {type : FuncType} {b : Body} {code : List Instr}

theorem Known.globalType? (hm : m.Known) {n : UInt32} {g : GlobalType}
    (h : m.globalType? n = some g) : g.value ≠ .unknown := by
  rw [globalType?_eq_getElem?] at h
  obtain ⟨g', hg', rfl⟩ := Option.bind_eq_some_iff.mp h
  rcases List.mem_append.mp (List.mem_of_getElem? hg') with hg | hg
  · exact hm.imports g hg
  · obtain ⟨v, hv, hg⟩ := List.mem_map.mp hg
    cases hg
    exact hm.globals v hv

theorem Known.scope (hm : m.Known) (htype : type ∈ m.types)
    (hlocals : ∀ l ∈ b.locals, l.type ≠ .unknown) :
    Scope.Known ⟨m, type.params ++ b.localTypes, type.results⟩ where
  types := hm.types
  globals _ _ h := hm.globalType? h
  locals t ht := by
    rcases List.mem_append.mp ht with ht | ht
    · exact (hm.types type htype).params t ht
    · obtain ⟨l, hl, ht⟩ := List.mem_flatMap.mp ht
      rw [List.eq_of_mem_replicate ht]
      exact hlocals l hl
  results := (hm.types type htype).results

/-- The checker decides the typing rules. Where no declared type is the mark for operands of unknown
type, a body without branch tables is accepted if and only if its code is properly nested, closed by
one last `end`, and takes no operands to the results of the function. -/
theorem checkBody_iff_hasType (hm : m.Known) (htype : type ∈ m.types)
    (hlocals : ∀ l ∈ b.locals, l.type ≠ .unknown) (hcode : Instr.decodeAll b.code = .ok code)
    (htable : ∀ i ∈ code, i.op ≠ Op.brTable) :
    m.checkBody type b = .ok () ↔ ∃ e : Expr, code = e.code ++ [⟨Op.stop, .none⟩] ∧
      e.HasType ⟨m, type.params ++ b.localTypes, type.results⟩ [type.results] [] type.results := by
  have hinstrs : ∀ i ∈ code, i.WellShaped ∧ i.op ≠ Op.brTable := fun i hi =>
    ⟨((Instr.decodeAll_ok hcode).1 i hi).wellShaped, htable i hi⟩
  rw [checkBody_eq_ok_iff, ← Scope.checkCode_iff_hasType (hm.scope htype hlocals) hinstrs]
  constructor
  · rintro ⟨code', hcode', hchecks⟩
    rwa [Except.ok.inj (hcode.symm.trans hcode')]
  · exact fun hchecks => ⟨code, hcode, hchecks⟩

/-- A choice between a constant and code after `unreachable` that adds operands it does not have. -/
theorem checkBody_iff_hasType_choice :
    let m : Module := { types := [⟨[.i32], [.i32]⟩] }
    let code : List Instr := [⟨Op.localGet, .localVar 0⟩, ⟨Op.ifThen, .block (-1)⟩,
      ⟨Op.i32Const, .i32 1⟩, ⟨Op.otherwise, .none⟩, ⟨Op.unreachable, .none⟩, ⟨Op.i32Add, .none⟩,
      ⟨Op.stop, .none⟩, ⟨Op.stop, .none⟩]
    m.Known ∧ Instr.decodeAll [32, 0, 4, 127, 65, 1, 5, 0, 106, 11, 11] = .ok code ∧
      ∃ e : Expr, code = e.code ++ [⟨Op.stop, .none⟩] ∧
        e.HasType ⟨m, [.i32], [.i32]⟩ [[.i32]] [] [.i32] := by
  intro m code
  have hm : m.Known := by
    refine ⟨fun type h => ?_, by simp [m, importedGlobals], by simp [m]⟩
    rw [List.mem_singleton.mp h]
    exact ⟨by decide, by decide⟩
  have hdecode : Instr.decodeAll [32, 0, 4, 127, 65, 1, 5, 0, 106, 11, 11] = .ok code := rfl
  refine ⟨hm, hdecode, ?_⟩
  exact (checkBody_iff_hasType (b := { code := [32, 0, 4, 127, 65, 1, 5, 0, 106, 11, 11] }) hm
    (List.mem_singleton.mpr rfl) (by simp) hdecode (by simp only [code]; decide)).mp rfl

/-- A result that is declared with the mark is taken to be of any type, so that a word is accepted
for it. -/
theorem checkBody_accepts_word_for_mark :
    let m : Module :=
      { types := [⟨[], [.unknown]⟩], funcs := [0], bodies := [{ code := [65, 0, 11] }] }
    let code : List Instr := [⟨Op.i32Const, .i32 0⟩, ⟨Op.stop, .none⟩]
    m.checkStructure = .ok () ∧ Instr.decodeAll [65, 0, 11] = .ok code ∧
      m.checkBody ⟨[], [.unknown]⟩ { code := [65, 0, 11] } = .ok () ∧
      ¬ ∃ e : Expr, code = e.code ++ [⟨Op.stop, .none⟩] ∧
        e.HasType ⟨m, [], [.unknown]⟩ [[.unknown]] [] [.unknown] := by
  intro m code
  refine ⟨rfl, rfl, rfl, ?_⟩
  rintro ⟨e, hcode, he⟩
  cases e with
  | plain i h next =>
    obtain ⟨rfl, hnext⟩ := List.cons.inj hcode
    obtain rfl := Expr.eq_nil_of_code (List.append_cancel_right hnext).symm
    obtain ⟨below, params, results, hbelow, hi, hnil⟩ := he.of_plain
    obtain ⟨rfl, rfl⟩ := Instr.HasType.of_i32Const hi
    obtain rfl : below = [] := by simpa using hbelow
    exact absurd hnil.of_nil (by decide)
  | _ => simp [Expr.code, code] at hcode

end Module
end TapeWasm.Wasm
