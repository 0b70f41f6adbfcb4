import TapeWasm.Proofs.Codec.Instr
import TapeWasm.Proofs.Typing.Numbering
import TapeWasm.Proofs.Typing.Operands
import TapeWasm.Proofs.Typing.Rules

/-!
The checker on single instructions. Those that neither open nor close a block are accepted exactly
in the states that stand for operands of a type that the rules give them.
-/
namespace TapeWasm.Wasm

open Checker

namespace Checker

@[simp] theorem expectAll_singleton (c : Checker) (t : ValueType) : c.expectAll [t] = c.expect t := by
  change (c.expect t >>= fun c => .ok c) = c.expect t
  cases c.expect t <;> rfl

theorem expectAll_concat (c : Checker) (ts : List ValueType) (t : ValueType) :
    c.expectAll (ts ++ [t]) = (do let c ← c.expect t; c.expectAll ts) := by
  unfold expectAll
  rw [List.reverse_append]
  rfl

theorem frames_of_expect {c c' : Checker} {t : ValueType} (h : c.expect t = .ok c') :
    c'.frames = c.frames := by
  obtain ⟨⟨got, c₁⟩, hpop, h⟩ := except_bind_ok_iff.mp h
  obtain rfl := except_pure_ok_iff.mp h
  obtain ⟨hpop, -⟩ := pop_of_popType hpop
  unfold pop at hpop
  split at hpop
  · cases hpop
  · split at hpop
    · split at hpop <;> cases hpop
      rfl
    · split at hpop <;> cases hpop
      rfl

/-- What branches to the open blocks take along. -/
def labels (c : Checker) : List (List ValueType) :=
  c.frames.map Frame.branchTypes

theorem label_eq_ok_iff {c : Checker} {l : UInt32} {ts : List ValueType} :
    c.label l = .ok ts ↔ c.labels[l.toNat]? = some ts := by
  unfold label labels
  rw [List.getElem?_map]
  cases c.frames[l.toNat]? <;> simp

end Checker

namespace Scope

variable {s : Scope} {c : Checker}

/-! What the checker does with instructions of each kind. -/

theorem step_memory {op : UInt8} {acc : Access} (h : access? op = some acc) (arg : MemArg) :
    s.step ⟨op, .memory arg⟩ c = s.memoryStep arg acc c := by
  unfold access? at h
  split at h <;> cases h <;> rfl

theorem step_numeric {op : UInt8} {type : FuncType} (h : numericType? op = some type) :
    s.step ⟨op, .none⟩ c = (do
      let c ← c.expectAll type.params
      return c.pushAll type.results) := by
  unfold step
  split
  case h_20 =>
    split
    · contradiction
    · rw [h]
  all_goals first
    | contradiction
    | rename_i hop
      cases hop
      cases h

theorem memoryStep_eq {arg : MemArg} {acc : Access} (hmemory : 0 < s.module.numMemories)
    (halign : 2 ^ arg.align.toNat ≤ 2 ^ acc.naturalAlign.toNat) :
    s.memoryStep arg acc c =
      if acc.isStore then (do let c ← c.expect acc.value; c.expect .i32)
      else (do let c ← c.expect .i32; return c.push acc.value) := by
  have hle : arg.align.toNat ≤ acc.naturalAlign.toNat :=
    (Nat.pow_le_pow_iff_right (by decide)).mp halign
  have hmemory' : s.needMemory 0 = .ok () := if_pos hmemory
  unfold memoryStep
  rw [hmemory']
  exact if_neg (UInt32.not_lt.mpr (UInt32.le_iff_toNat_le.mpr hle))

/-- An instruction with one type takes its parameters and leaves its results. -/
theorem step_of_signature {i : Instr} {type : FuncType} (h : s.Signature c.labels i type) :
    s.step i c = (do
      let c ← c.expectAll type.params
      return c.pushAll type.results) := by
  cases h with
  | nop | i32Const | i64Const => rfl
  | @brIf l ts h =>
    rw [expectAll_concat]
    change (do
      let c ← c.expect .i32
      let types ← c.label l
      let c ← c.expectAll types
      return c.pushAll types) = _
    cases hword : c.expect .i32 with
    | error f => rfl
    | ok c₁ =>
      have hlabel : c₁.label l = .ok ts := by
        rw [label_eq_ok_iff, labels, frames_of_expect hword]
        exact h
      change (do
        let types ← c₁.label l
        let c ← c₁.expectAll types
        return c.pushAll types) = _
      rw [hlabel]
      rfl
  | call h =>
    conv => lhs; whnf
    rw [h]
  | @localGet n t h =>
    change s.localStep Op.localGet n c = _
    unfold localStep
    rw [h]
    rfl
  | @localSet n t h =>
    change s.localStep Op.localSet n c = _
    unfold localStep
    rw [h, expectAll_singleton]
    change c.expect t = _
    cases c.expect t <;> rfl
  | @localTee n t h =>
    change s.localStep Op.localTee n c = _
    unfold localStep
    rw [h, expectAll_singleton]
    rfl
  | @globalGet n g h =>
    change s.globalStep Op.globalGet n c = _
    unfold globalStep
    rw [h]
    rfl
  | @globalSet n g h hmutable =>
    change s.globalStep Op.globalSet n c = _
    unfold globalStep
    rw [h, expectAll_singleton]
    change (if g.isMutable then c.expect g.value else _) = _
    rw [if_pos hmutable]
    cases c.expect g.value <;> rfl
  | load hop hmemory halign =>
    obtain ⟨align, hacc, rfl⟩ := hop.access?
    rw [step_memory hacc, memoryStep_eq hmemory halign, expectAll_singleton]
    rfl
  | @store op t bytes arg hop hmemory halign =>
    obtain ⟨align, hacc, rfl⟩ := hop.access?
    rw [step_memory hacc, memoryStep_eq hmemory halign]
    change (do let c ← c.expect t; c.expect .i32) =
      (do let c ← c.expectAll ([.i32] ++ [t]); return c.pushAll [])
    rw [expectAll_concat]
    cases c.expect t with
    | error f => rfl
    | ok c₁ =>
      change c₁.expect .i32 = (do let c ← c₁.expectAll [.i32]; return c.pushAll [])
      rw [expectAll_singleton]
      cases c₁.expect .i32 <;> rfl
  | @memorySize n h =>
    change (do s.needMemory n; return c.push .i32) = _
    rw [show s.needMemory n = .ok () from if_pos h]
    rfl
  | @memoryGrow n h =>
    change (do s.needMemory n; let c ← c.expect .i32; return c.push .i32) = _
    rw [show s.needMemory n = .ok () from if_pos h, expectAll_singleton]
    rfl
  | numeric h => exact step_numeric h.numericType?

theorem step_of_jumps {i : Instr} {ts : List ValueType} (h : s.Jumps c.labels i ts) :
    s.step i c = (do
      let c ← c.expectAll ts
      return c.abandon) := by
  cases h with
  | unreachable | ret => rfl
  | @br l ts h =>
    change (do
      let types ← c.label l
      let c ← c.expectAll types
      return c.abandon) = _
    rw [label_eq_ok_iff.mpr h]
    rfl

theorem lt_of_needMemory {n : UInt32} {u : Unit} (h : s.needMemory n = .ok u) :
    n.toNat < s.module.numMemories := by
  unfold needMemory at h
  split at h
  · assumption
  · cases h

/-- An instruction that the checker accepts is one that the rules speak of. -/
theorem typed_of_step {i : Instr} (hw : i.WellShaped) (hplain : i.IsPlain)
    (htable : i.op ≠ Op.brTable) {d : Checker} (h : s.step i c = .ok d) :
    (∃ type, s.Signature c.labels i type) ∨ (∃ ts, s.Jumps c.labels i ts) ∨
      i = ⟨Op.drop, .none⟩ ∨ i = ⟨Op.select, .none⟩ := by
  obtain ⟨op, imm⟩ := i
  have htakes := Shape.takes_of_shape? hw
  cases imm with
  | none =>
    rcases htakes with hop | ⟨type, htype⟩
    · simp only [List.mem_cons, List.not_mem_nil, or_false] at hop
      rcases hop with rfl | rfl | rfl | rfl | rfl | rfl | rfl
      · exact .inr (.inl ⟨_, .unreachable⟩)
      · exact .inl ⟨_, .nop⟩
      · exact absurd (by simp) hplain
      · exact absurd (by simp) hplain
      · exact .inr (.inl ⟨_, .ret⟩)
      · exact .inr (.inr (.inl rfl))
      · exact .inr (.inr (.inr rfl))
    · exact .inl ⟨type, .numeric (Op.numeric_of_numericType? htype)⟩
  | block t =>
    simp only [Immediate.shape, Shape.Takes, List.mem_cons, List.not_mem_nil, or_false] at htakes
    rcases htakes with rfl | rfl | rfl <;> exact absurd (by simp) hplain
  | branch l =>
    simp only [Immediate.shape, Shape.Takes, List.mem_cons, List.not_mem_nil, or_false] at htakes
    rcases htakes with rfl | rfl
    · obtain ⟨ts, hlabel, -⟩ := except_bind_ok_iff.mp h
      exact .inr (.inl ⟨ts, .br (label_eq_ok_iff.mp hlabel)⟩)
    · obtain ⟨c₁, hword, h⟩ := except_bind_ok_iff.mp h
      obtain ⟨ts, hlabel, -⟩ := except_bind_ok_iff.mp h
      rw [label_eq_ok_iff, labels, frames_of_expect hword] at hlabel
      exact .inl ⟨_, .brIf hlabel⟩
  | table ls l => exact absurd htakes htable
  | call f =>
    obtain rfl : op = Op.call := htakes
    cases hf : s.module.funcType? f with
    | none =>
      have hstep : s.step ⟨Op.call, .call f⟩ c = .error (.unknownCallee f) := by
        conv => lhs; whnf
        rw [hf]
      cases hstep.symm.trans h
    | some type => exact .inl ⟨type, .call hf⟩
  | localVar n =>
    simp only [Immediate.shape, Shape.Takes, List.mem_cons, List.not_mem_nil, or_false] at htakes
    have hlocal : s.localStep op n c = .ok d := by
      rcases htakes with rfl | rfl | rfl <;> exact h
    unfold localStep at hlocal
    split at hlocal
    · cases hlocal
    · rename_i t ht
      rcases htakes with rfl | rfl | rfl
      · exact .inl ⟨_, .localGet ht⟩
      · exact .inl ⟨_, .localSet ht⟩
      · exact .inl ⟨_, .localTee ht⟩
  | globalVar n =>
    simp only [Immediate.shape, Shape.Takes, List.mem_cons, List.not_mem_nil, or_false] at htakes
    have hglobal : s.globalStep op n c = .ok d := by
      rcases htakes with rfl | rfl <;> exact h
    unfold globalStep at hglobal
    split at hglobal
    · cases hglobal
    · rename_i g hg
      rcases htakes with rfl | rfl
      · exact .inl ⟨_, .globalGet hg⟩
      · change (if g.isMutable then _ else _) = _ at hglobal
        split at hglobal
        · rename_i hmutable
          exact .inl ⟨_, .globalSet hg hmutable⟩
        · cases hglobal
  | memory arg =>
    obtain ⟨acc, hacc⟩ : ∃ acc, access? op = some acc := htakes
    rw [step_memory hacc] at h
    obtain ⟨_, hmemory, h⟩ := except_bind_ok_iff.mp h
    have hpos : 0 < s.module.numMemories := lt_of_needMemory hmemory
    split at h
    · cases h
    · rename_i halign
      have halign : 2 ^ arg.align.toNat ≤ 2 ^ acc.naturalAlign.toNat :=
        Nat.pow_le_pow_right (by decide)
          (UInt32.le_iff_toNat_le.mp (UInt32.not_lt.mp halign))
      rcases Op.loads_or_stores_of_access? hacc with ⟨-, hop⟩ | ⟨-, hop⟩
      · exact .inl ⟨_, .load hop hpos halign⟩
      · exact .inl ⟨_, .store hop hpos halign⟩
  | memoryIndex n =>
    simp only [Immediate.shape, Shape.Takes, List.mem_cons, List.not_mem_nil, or_false] at htakes
    have hmemory : n.toNat < s.module.numMemories := by
      rcases htakes with rfl | rfl
      all_goals
        obtain ⟨_, hmemory, -⟩ := except_bind_ok_iff.mp h
        exact lt_of_needMemory hmemory
    rcases htakes with rfl | rfl
    · exact .inl ⟨_, .memorySize hmemory⟩
    · exact .inl ⟨_, .memoryGrow hmemory⟩
  | i32 k =>
    obtain rfl : op = Op.i32Const := htakes
    exact .inl ⟨_, .i32Const k⟩
  | i64 k =>
    obtain rfl : op = Op.i64Const := htakes
    exact .inl ⟨_, .i64Const k⟩

end Scope

/-- No type is the mark for operands of unknown type. -/
structure FuncType.Known (type : FuncType) : Prop where
  params : ∀ t ∈ type.params, t ≠ .unknown
  results : ∀ t ∈ type.results, t ≠ .unknown

structure Scope.Known (s : Scope) : Prop where
  types : ∀ type ∈ s.module.types, type.Known
  globals : ∀ n g, s.module.globalType? n = some g → g.value ≠ .unknown
  locals : ∀ t ∈ s.locals, t ≠ .unknown
  results : ∀ t ∈ s.results, t ≠ .unknown

theorem Module.BlockType.known {m : Module} {t : Int32} {type : FuncType}
    (h : m.BlockType t type) (hm : ∀ type ∈ m.types, type.Known) : type.Known := by
  cases h with
  | index _ hi => exact hm _ (List.mem_of_getElem? hi)
  | _ => constructor <;> simp [ValueType.i32, ValueType.i64, ValueType.f32, ValueType.f64,
      ValueType.unknown]

namespace Scope

variable {s : Scope} {labels : List (List ValueType)} {i : Instr}

theorem Signature.known {type : FuncType} (h : s.Signature labels i type) (hs : s.Known)
    (hlabels : ∀ ts ∈ labels, ∀ t ∈ ts, t ≠ .unknown) : type.Known := by
  have hi32 : ValueType.i32 ≠ .unknown := by decide
  have hi64 : ValueType.i64 ≠ .unknown := by decide
  cases h with
  | brIf h =>
    have hts := hlabels _ (List.mem_of_getElem? h)
    refine ⟨fun t ht => ?_, hts⟩
    rcases List.mem_append.mp ht with ht | ht
    · exact hts t ht
    · rw [List.mem_singleton.mp ht]
      exact hi32
  | call h => exact hs.types _ (Module.mem_types_of_funcType? h)
  | localGet h | localSet h | localTee h =>
    have ht := hs.locals _ (List.mem_of_getElem? h)
    constructor <;> simp [ht]
  | globalGet h | globalSet h =>
    have ht := hs.globals _ _ h
    constructor <;> simp [ht]
  | load hop => cases hop <;> constructor <;> simp [hi32, hi64]
  | store hop => cases hop <;> constructor <;> simp [hi32, hi64]
  | numeric h => cases h <;> constructor <;> simp [hi32, hi64]
  | _ => constructor <;> simp [hi32, hi64]

theorem Jumps.known {ts : List ValueType} (h : s.Jumps labels i ts) (hs : s.Known)
    (hlabels : ∀ ts ∈ labels, ∀ t ∈ ts, t ≠ .unknown) : ∀ t ∈ ts, t ≠ .unknown := by
  cases h with
  | unreachable => simp
  | br h => exact hlabels _ (List.mem_of_getElem? h)
  | ret => exact hs.results

variable {g : Frame} {fs : List Frame} {base : List ValueType} {u : Bool} {top : List ValueType}

/-- An instruction is accepted where there may be the operands that it takes. -/
theorem step_of_hasType (hg : g.height = base.length) {params results rest : List ValueType}
    (hi : i.HasType s (g.branchTypes :: fs.map Frame.branchTypes) params results)
    (h : Admits u top (params.reverse ++ rest)) :
    ∃ u' top', s.step i (inBlock g fs base u top) = .ok (inBlock g fs base u' top') ∧
      Admits u' top' (results.reverse ++ rest) := by
  cases hi with
  | fixed hsignature =>
    obtain ⟨top', hexpect, hrest⟩ := expectTop_of_admits hg h
    refine ⟨u, _, ?_, hrest.append _⟩
    rw [step_of_signature hsignature, ← pushAll_inBlock]
    exact except_bind_ok_iff.mpr ⟨_, hexpect, rfl⟩
  | jump hjumps params results =>
    rw [List.reverse_append, List.append_assoc] at h
    obtain ⟨top', hexpect, -⟩ := expectTop_of_admits hg h
    refine ⟨true, [], ?_, .hidden rfl _⟩
    rw [step_of_jumps hjumps]
    exact except_bind_ok_iff.mpr ⟨_, hexpect, congrArg Except.ok (abandon_inBlock hg)⟩
  | drop t =>
    obtain ⟨got, top', hpop, -, hrest⟩ := pop_of_admits hg h
    exact ⟨u, top', except_bind_ok_iff.mpr ⟨_, hpop, rfl⟩, hrest⟩
  | select t =>
    obtain ⟨top₁, hword, h⟩ := expect_of_admits hg h
    obtain ⟨t₁, top₂, hpop, ht₁, h⟩ := pop_of_admits hg h
    obtain ⟨t₂, top₃, hpop', ht₂, hrest⟩ := popType_of_admits hg h ht₁
    refine ⟨u, (if t₁ = .unknown then t₂ else t₁) :: top₃, ?_, .cons ?_ hrest⟩
    · exact except_bind_ok_iff.mpr ⟨_, hword, except_bind_ok_iff.mpr ⟨_, hpop,
        except_bind_ok_iff.mpr ⟨_, hpop', rfl⟩⟩⟩
    · split
      · exact ht₂
      · exact ht₁

/-- Where an instruction is accepted there may be the operands that it takes. -/
theorem hasType_of_step (hs : s.Known) (hg : g.height = base.length)
    (hlabels : ∀ ts ∈ g.branchTypes :: fs.map Frame.branchTypes, ∀ t ∈ ts, t ≠ .unknown)
    (hw : i.WellShaped) (hplain : i.IsPlain) (htable : i.op ≠ Op.brTable) {d : Checker}
    (h : s.step i (inBlock g fs base u top) = .ok d) :
    ∃ u' top', d = inBlock g fs base u' top' ∧ ∀ ts, Admits u' top' ts →
      ∃ params results rest,
        i.HasType s (g.branchTypes :: fs.map Frame.branchTypes) params results ∧
        ts = results.reverse ++ rest ∧ Admits u top (params.reverse ++ rest) := by
  rcases typed_of_step hw hplain htable h with ⟨type, htype⟩ | ⟨ts, hts⟩ | rfl | rfl
  · rw [step_of_signature htype] at h
    obtain ⟨c₁, hexpect, h⟩ := except_bind_ok_iff.mp h
    obtain rfl := except_pure_ok_iff.mp h
    have hknown := htype.known hs hlabels
    have hparams : ∀ t ∈ type.params.reverse, t ≠ .unknown := by simpa using hknown.params
    have hresults : ∀ t ∈ type.results.reverse, t ≠ .unknown := by simpa using hknown.results
    obtain ⟨top', rfl, hadmits⟩ := admits_of_expectTop hg hparams hexpect
    refine ⟨u, _, pushAll_inBlock _, fun ts hts => ?_⟩
    obtain ⟨rest, rfl, hrest⟩ := hts.of_known hresults
    exact ⟨_, _, rest, .fixed htype, rfl, hadmits rest hrest⟩
  · rw [step_of_jumps hts] at h
    obtain ⟨c₁, hexpect, h⟩ := except_bind_ok_iff.mp h
    obtain rfl := except_pure_ok_iff.mp h
    have hknown : ∀ t ∈ ts.reverse, t ≠ .unknown := by simpa using hts.known hs hlabels
    obtain ⟨top', rfl, hadmits⟩ := admits_of_expectTop hg hknown hexpect
    refine ⟨true, [], abandon_inBlock hg, fun out _ => ?_⟩
    -- The jump may leave anything, and it drops whatever operands are below those it takes along.
    refine ⟨top'.reverse ++ ts, out.reverse, [], .jump hts _ _, by simp, ?_⟩
    simpa using hadmits top' (.refl u top')
  · obtain ⟨⟨t, c₁⟩, hpop, h⟩ := except_bind_ok_iff.mp h
    obtain rfl := except_pure_ok_iff.mp h
    obtain ⟨top', rfl, hadmits⟩ := admits_of_pop hg hpop
    exact ⟨u, top', rfl, fun ts hts => ⟨[t], [], ts, .drop t, rfl, hadmits t ts (.inl rfl) hts⟩⟩
  · obtain ⟨c₁, hword, h⟩ := except_bind_ok_iff.mp h
    obtain ⟨⟨t₁, c₂⟩, hpop, h⟩ := except_bind_ok_iff.mp h
    obtain ⟨⟨t₂, c₃⟩, hpop', h⟩ := except_bind_ok_iff.mp h
    obtain rfl := except_pure_ok_iff.mp h
    obtain ⟨hpop', ht₂⟩ := pop_of_popType hpop'
    obtain ⟨top₁, rfl, hadmits₁⟩ := admits_of_expect hg (by decide) hword
    obtain ⟨top₂, rfl, hadmits₂⟩ := admits_of_pop hg hpop
    obtain ⟨top₃, rfl, hadmits₃⟩ := admits_of_pop hg hpop'
    refine ⟨u, (if t₁ = .unknown then t₂ else t₁) :: top₃, rfl, fun ts hts => ?_⟩
    cases hts with
    | @cons _ t _ rest ht hrest =>
      refine ⟨[t, t, .i32], [t], rest, .select t, rfl, ?_⟩
      refine hadmits₁ _ (hadmits₂ t _ ?_ (hadmits₃ t rest ?_ hrest))
      · by_cases hunknown : t₁ = .unknown
        · exact .inr hunknown
        · rwa [if_neg hunknown] at ht
      · by_cases hunknown : t₁ = .unknown
        · rwa [if_pos hunknown] at ht
        · rw [if_neg hunknown] at ht
          rcases ht₂ with rfl | hunknown' | hunknown'
          · exact ht
          · exact .inr hunknown'
          · exact absurd hunknown' hunknown

end Scope
end TapeWasm.Wasm
