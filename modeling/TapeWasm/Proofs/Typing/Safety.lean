import TapeWasm.Proofs.Machine.Run
import TapeWasm.Proofs.Typing.Nesting
import TapeWasm.Wasm.Module

/-!
Type safety of running code. A machine is well typed if the checker accepts what is left of its code
from a state that describes its operands and open blocks. A step of such a machine never gets stuck
and leads to a well-typed machine.
-/
namespace TapeWasm.Wasm

theorem Value.type_ne_unknown (v : Value) : v.type ≠ .unknown := by
  cases v <;> simp [type, ValueType.i32, ValueType.i64, ValueType.f32, ValueType.f64,
    ValueType.unknown]

/-- The instructions that the machine can run. Their blocks take and leave nothing, and they call
only the host's functions. -/
inductive Instr.Runnable (m : Module) (host : List HostCall) : Instr → Prop
  | unreachable : Runnable m host ⟨Op.unreachable, .none⟩
  | nop : Runnable m host ⟨Op.nop, .none⟩
  | block : Runnable m host ⟨Op.block, .block emptyType⟩
  | loop : Runnable m host ⟨Op.loop, .block emptyType⟩
  | ifThen : Runnable m host ⟨Op.ifThen, .block emptyType⟩
  | stop : Runnable m host ⟨Op.stop, .none⟩
  | brIf (l : UInt32) : Runnable m host ⟨Op.brIf, .branch l⟩
  | call {f : UInt32} {c : HostCall} (hf : host[f.toNat]? = some c)
      (ht : m.funcType? f = some HostCall.type) : Runnable m host ⟨Op.call, .call f⟩
  | drop : Runnable m host ⟨Op.drop, .none⟩
  | localGet (n : UInt32) : Runnable m host ⟨Op.localGet, .localVar n⟩
  | localSet (n : UInt32) : Runnable m host ⟨Op.localSet, .localVar n⟩
  | load (arg : MemArg) : Runnable m host ⟨Op.i32Load, .memory arg⟩
  | storeWord (arg : MemArg) : Runnable m host ⟨Op.i32Store, .memory arg⟩
  | storeByte (arg : MemArg) : Runnable m host ⟨Op.i32Store8, .memory arg⟩
  | const (k : Int32) : Runnable m host ⟨Op.i32Const, .i32 k⟩
  | eqz : Runnable m host ⟨Op.i32Eqz, .none⟩
  | eq : Runnable m host ⟨Op.i32Eq, .none⟩
  | ne : Runnable m host ⟨Op.i32Ne, .none⟩
  | add : Runnable m host ⟨Op.i32Add, .none⟩
  | sub : Runnable m host ⟨Op.i32Sub, .none⟩

theorem Instr.Runnable.wellShaped {m : Module} {host : List HostCall} {i : Instr}
    (h : i.Runnable m host) : i.WellShaped := by
  cases h <;> rfl

namespace Checker

variable {base : List ValueType} {g : Frame} {fs : List Frame} {stack : List Value} {c : Checker}

/-! Taking operands from a block whose operands are known values. -/

theorem pop_values (hg : g.height = base.length) (hr : g.isUnreachable = false) {t : ValueType}
    (h : pop ⟨stack.map Value.type ++ base, g :: fs⟩ = .ok (t, c)) :
    ∃ v rest, stack = v :: rest ∧ t = v.type ∧ c = ⟨rest.map Value.type ++ base, g :: fs⟩ := by
  rw [pop_eq hg] at h
  cases stack with
  | nil => simp [hr] at h
  | cons v rest =>
    cases h
    exact ⟨v, rest, rfl, rfl, rfl⟩

theorem expect_values (hg : g.height = base.length) (hr : g.isUnreachable = false)
    {want : ValueType} (hw : want ≠ .unknown)
    (h : expect ⟨stack.map Value.type ++ base, g :: fs⟩ want = .ok c) :
    ∃ v rest, stack = v :: rest ∧ v.type = want ∧
      c = ⟨rest.map Value.type ++ base, g :: fs⟩ := by
  obtain ⟨⟨got, c₁⟩, hp, h⟩ := except_bind_ok_iff.mp h
  obtain rfl := except_pure_ok_iff.mp h
  obtain ⟨⟨got', c₂⟩, hpop, hp⟩ := except_bind_ok_iff.mp hp
  obtain ⟨v, rest, rfl, rfl, rfl⟩ := pop_values hg hr hpop
  simp only at hp
  split at hp
  · cases hp
  · rename_i hok
    obtain ⟨rfl, rfl⟩ := Prod.mk.inj (except_pure_ok_iff.mp hp)
    refine ⟨v, rest, rfl, ?_, rfl⟩
    exact Decidable.byContradiction fun hne => hok ⟨hne, v.type_ne_unknown, hw⟩

theorem expectTop_values (hg : g.height = base.length) (hr : g.isUnreachable = false)
    {ts : List ValueType} (hts : ∀ t ∈ ts, t ≠ .unknown)
    (h : expectTop ts ⟨stack.map Value.type ++ base, g :: fs⟩ = .ok c) :
    ∃ vs rest, stack = vs ++ rest ∧ vs.map Value.type = ts ∧
      c = ⟨rest.map Value.type ++ base, g :: fs⟩ := by
  induction ts generalizing stack with
  | nil =>
    obtain rfl : _ = c := by simpa [expectTop] using h
    exact ⟨[], stack, rfl, rfl, rfl⟩
  | cons t ts ih =>
    obtain ⟨c₁, ht, h⟩ := except_bind_ok_iff.mp h
    obtain ⟨v, rest, rfl, rfl, rfl⟩ := expect_values hg hr (hts t (by simp)) ht
    obtain ⟨vs, rest', rfl, rfl, rfl⟩ := ih (fun t ht => hts t (by simp [ht])) h
    exact ⟨v :: vs, rest', rfl, rfl, rfl⟩

theorem expectAll_values (hg : g.height = base.length) (hr : g.isUnreachable = false)
    {ts : List ValueType} (hts : ∀ t ∈ ts, t ≠ .unknown)
    (h : expectAll ⟨stack.map Value.type ++ base, g :: fs⟩ ts = .ok c) :
    ∃ vs rest, stack = vs ++ rest ∧ vs.map Value.type = ts.reverse ∧
      c = ⟨rest.map Value.type ++ base, g :: fs⟩ :=
  expectTop_values hg hr (by simpa using hts) h

end Checker

open Machine

/-- The checker's state describes the open blocks of a machine and its operands. The blocks that a
branch starts again have bodies that are accepted, up to the final operands `final`. -/
inductive Scope.Describes (s : Scope) (host : List HostCall) (final : List ValueType) :
    Checker → List Label → List Value → Prop
  | nil (stack : List Value) : Describes s host final ⟨stack.map Value.type, []⟩ [] stack
  | forward {base : List ValueType} {g : Frame} {fs : List Frame} {labels : List Label}
      {below : List Value} (stack : List Value) (h : Describes s host final ⟨base, fs⟩ labels below)
      (hg : g.height = base.length) (hr : g.isUnreachable = false) (hk : g.kind ≠ .loop)
      (ht : ∀ t ∈ g.type.results, t ≠ .unknown) :
      Describes s host final ⟨stack.map Value.type ++ base, g :: fs⟩
        (.forward g.type.results.length below :: labels) stack
  | back {base : List ValueType} {g : Frame} {fs : List Frame} {labels : List Label}
      {below : List Value} {body : List Instr} (stack : List Value)
      (h : Describes s host final ⟨base, fs⟩ labels below)
      (hg : g.height = base.length) (hr : g.isUnreachable = false) (hk : g.kind = .loop)
      (ht : g.type = {}) (hbody : s.Checks body ⟨base, g :: fs⟩ ⟨final, []⟩)
      (hrun : ∀ i ∈ body, i.Runnable s.module host) :
      Describes s host final ⟨stack.map Value.type ++ base, g :: fs⟩
        (.back below body :: labels) stack

/-- A machine in an open block whose code is accepted from a state that describes it. -/
structure Scope.WellTyped (s : Scope) (host : List HostCall) (final : List ValueType)
    (m : Machine) : Prop where
  locals : m.locals.map Value.type = s.locals
  runnable : ∀ i ∈ m.code, i.Runnable s.module host
  checks : ∃ c, c.frames ≠ [] ∧ s.Describes host final c m.labels m.stack ∧
    s.Checks m.code c ⟨final, []⟩

/-- A step does not get stuck: it leads to a well-typed machine, ends with operands of the types in
`final`, or traps. -/
def Scope.Safe (s : Scope) (host : List HostCall) (final : List ValueType) : Step → Prop
  | .next m => s.WellTyped host final m
  | .finished m => m.locals.map Value.type = s.locals ∧ m.stack.map Value.type = final
  | .trapped _ _ => True
  | .stuck _ => False

namespace Scope

variable {s : Scope} {host : List HostCall} {final : List ValueType} {c d : Checker}
  {labels : List Label} {stack : List Value} {code : List Instr} {locals : List Value}
  {store : Store}

/-- An open block has operands of known types, and its stack may be any other. -/
theorem Describes.innermost (h : s.Describes host final c labels stack) (hc : c.frames ≠ []) :
    ∃ base g fs, c = ⟨stack.map Value.type ++ base, g :: fs⟩ ∧ g.height = base.length ∧
      g.isUnreachable = false ∧
      ∀ stack', s.Describes host final ⟨stack'.map Value.type ++ base, g :: fs⟩ labels stack' := by
  cases h with
  | nil stack => exact absurd rfl hc
  | @forward base g fs _ _ stack h hg hr hk ht =>
    exact ⟨base, g, fs, rfl, hg, hr, fun stack' => .forward stack' h hg hr hk ht⟩
  | @back base g fs _ _ _ stack h hg hr hk ht hbody hrun =>
    exact ⟨base, g, fs, rfl, hg, hr, fun stack' => .back stack' h hg hr hk ht hbody hrun⟩

/-- Values put on the operands are described by their types. -/
theorem Describes.append {operands : List ValueType} {fs : List Frame}
    (h : s.Describes host final ⟨operands, fs⟩ labels stack) (vs : List Value) :
    s.Describes host final ⟨vs.map Value.type ++ operands, fs⟩ labels (vs ++ stack) := by
  cases fs with
  | nil =>
    cases h
    rw [← List.map_append]
    exact .nil _
  | cons g fs =>
    obtain ⟨base, g, fs, heq, -, -, hset⟩ := h.innermost (by simp)
    cases heq
    rw [← List.append_assoc, ← List.map_append]
    exact hset _

/-- A machine goes on, or is finished, where the checker accepts the code after a block. -/
theorem Describes.resume (hd : s.Describes host final d labels stack)
    (hcode : s.Checks code d ⟨final, []⟩) (hrun : ∀ i ∈ code, i.Runnable s.module host)
    (hl : locals.map Value.type = s.locals) :
    s.Safe host final (Machine.resume ⟨code, labels, stack, locals, store⟩) := by
  cases labels with
  | nil =>
    cases hd
    cases code with
    | nil => exact ⟨hl, congrArg Checker.operands hcode⟩
    | cons i is => exact absurd rfl hcode.1
  | cons l labels => exact ⟨hl, hrun, d, by cases hd <;> simp, hd, hcode⟩

/-- The label of an open block, and the block as it stands with no operands of its own. -/
theorem Describes.label (h : s.Describes host final c labels stack) {depth : Nat} {f : Frame}
    (hf : c.frames[depth]? = some f) :
    ∃ l outer base fs, labels.drop depth = l :: outer ∧
      Checker.Inside f.type.results base fs depth c ∧
      s.Describes host final ⟨base, f :: fs⟩ (l :: outer) [] := by
  induction h generalizing depth with
  | nil stack => cases hf
  | @forward base g fs _ _ stack h hg hr hk ht ih =>
    cases depth with
    | zero =>
      cases hf
      exact ⟨_, _, base, fs, rfl, .here _ rfl hg, .forward [] h hg hr hk ht⟩
    | succ depth =>
      obtain ⟨l, outer, base', fs', hl, hin, hd⟩ := ih hf
      exact ⟨l, outer, base', fs', hl, .inner _ hin hg, hd⟩
  | @back base g fs _ _ _ stack h hg hr hk ht hbody hrun ih =>
    cases depth with
    | zero =>
      cases hf
      exact ⟨_, _, base, fs, rfl, .here _ rfl hg, .back [] h hg hr hk ht hbody hrun⟩
    | succ depth =>
      obtain ⟨l, outer, base', fs', hl, hin, hd⟩ := ih hf
      exact ⟨l, outer, base', fs', hl, .inner _ hin hg, hd⟩

/-- A branch finds its block and the end of it, and has the operands that it takes along. -/
theorem Describes.branch (hd : s.Describes host final c labels stack)
    (hcode : s.Checks code c ⟨final, []⟩) (hrun : ∀ i ∈ code, i.Runnable s.module host)
    (hl : locals.map Value.type = s.locals) {depth : Nat} {f : Frame}
    (hf : c.frames[depth]? = some f) {vs rest : List Value} (hstack : stack = vs ++ rest)
    (hvs : vs.map Value.type = f.branchTypes.reverse) :
    s.Safe host final (Machine.branch ⟨code, labels, stack, locals, store⟩ depth) := by
  obtain ⟨l, outer, base, fs, hdrop, hin, hlabel⟩ := hd.label hf
  unfold Machine.branch
  simp only [hdrop]
  cases hlabel with
  | back _ h hg hr hk ht hbody hbodyRun =>
    exact ⟨hl, hbodyRun, _, List.cons_ne_nil _ _, .back [] h hg hr hk ht hbody hbodyRun, hbody⟩
  | @forward _ _ _ _ below _ h hg hr hk ht =>
    obtain ⟨after, hafter, hsuffix, hchecks⟩ :=
      hin.afterEnd hcode fun i hi => (hrun i hi).wellShaped
    have htypes : f.branchTypes = f.type.results := by
      unfold Frame.branchTypes
      split
      · contradiction
      · rfl
    rw [htypes] at hvs
    have hlen : vs.length = f.type.results.length := by
      simpa using congrArg List.length hvs
    have htake : stack.take f.type.results.length = vs := by
      rw [hstack, ← hlen, List.take_left]
    have henough : ¬ stack.length < f.type.results.length := by
      rw [hstack, List.length_append]
      omega
    simp only [hafter, if_neg henough, htake]
    have hnext := h.append vs
    rw [hvs] at hnext
    exact hnext.resume hchecks (fun i hi => hrun i (hsuffix.subset hi)) hl

/-! What the checker asks of the operands of each instruction. -/

section Accepted

variable {base : List ValueType} {g : Frame} {fs : List Frame}

theorem words_of_types {vs : List Value} {n : Nat}
    (h : vs.map Value.type = List.replicate n .i32) :
    ∃ ws : List UInt32, ws.length = n ∧ vs = ws.map .i32 := by
  induction n generalizing vs with
  | zero => exact ⟨[], rfl, by simpa using h⟩
  | succ n ih =>
    obtain ⟨v, vs, rfl, hv, hvs⟩ := List.map_eq_cons_iff.mp h
    obtain ⟨w, rfl⟩ := Value.eq_i32_of_type hv
    obtain ⟨ws, rfl, rfl⟩ := ih hvs
    exact ⟨w :: ws, rfl, rfl⟩

/-- An instruction that takes words and leaves operands of given types. -/
theorem apply_values (hg : g.height = base.length) (hr : g.isUnreachable = false) {n : Nat}
    {results : List ValueType}
    (h : (do
      let c ← Checker.expectAll ⟨stack.map Value.type ++ base, g :: fs⟩ (List.replicate n .i32)
      return c.pushAll results) = Except.ok d) :
    ∃ (ws : List UInt32) (rest : List Value), ws.length = n ∧ stack = ws.map .i32 ++ rest ∧
      d = ⟨results.reverse ++ rest.map Value.type ++ base, g :: fs⟩ := by
  obtain ⟨c₁, hall, hd⟩ := except_bind_ok_iff.mp h
  have hknown : ∀ t ∈ List.replicate n ValueType.i32, t ≠ .unknown := by
    intro t ht
    rw [List.eq_of_mem_replicate ht]
    decide
  obtain ⟨vs, rest, rfl, hvs, rfl⟩ := Checker.expectAll_values hg hr hknown hall
  rw [List.reverse_replicate] at hvs
  obtain ⟨ws, hlen, rfl⟩ := words_of_types hvs
  obtain rfl := except_pure_ok_iff.mp hd
  exact ⟨ws, rest, hlen, rfl, by simp [Checker.pushAll]⟩

theorem expect_word (hg : g.height = base.length) (hr : g.isUnreachable = false)
    (h : Checker.expect ⟨stack.map Value.type ++ base, g :: fs⟩ .i32 = .ok d) :
    ∃ (w : UInt32) (rest : List Value), stack = .i32 w :: rest ∧
      d = ⟨rest.map Value.type ++ base, g :: fs⟩ := by
  obtain ⟨v, rest, rfl, hv, rfl⟩ := Checker.expect_values hg hr (by decide) h
  obtain ⟨w, rfl⟩ := Value.eq_i32_of_type hv
  exact ⟨w, rest, rfl, rfl⟩

theorem local_of_types (hl : locals.map Value.type = s.locals) {n : Nat} {t : ValueType}
    (h : s.locals[n]? = some t) : ∃ v, locals[n]? = some v ∧ v.type = t := by
  rw [← hl, List.getElem?_map, Option.map_eq_some_iff] at h
  exact h

theorem localGet_values {n : UInt32} (hl : locals.map Value.type = s.locals)
    (h : s.localStep Op.localGet n ⟨stack.map Value.type ++ base, g :: fs⟩ = .ok d) :
    ∃ v, locals[n.toNat]? = some v ∧ d = ⟨(v :: stack).map Value.type ++ base, g :: fs⟩ := by
  unfold localStep at h
  split at h
  · cases h
  · rename_i t ht
    obtain ⟨v, hv, rfl⟩ := local_of_types hl ht
    cases h
    exact ⟨v, hv, rfl⟩

theorem localSet_values (hg : g.height = base.length) (hr : g.isUnreachable = false) {n : UInt32}
    (hl : locals.map Value.type = s.locals)
    (h : s.localStep Op.localSet n ⟨stack.map Value.type ++ base, g :: fs⟩ = .ok d) :
    ∃ v rest, stack = v :: rest ∧ n.toNat < locals.length ∧
      (locals.set n.toNat v).map Value.type = s.locals ∧
      d = ⟨rest.map Value.type ++ base, g :: fs⟩ := by
  unfold localStep at h
  split at h
  · cases h
  · rename_i t ht
    obtain ⟨v₀, hv₀, rfl⟩ := local_of_types hl ht
    obtain ⟨v, rest, rfl, hv, rfl⟩ := Checker.expect_values hg hr v₀.type_ne_unknown h
    obtain ⟨hlt, -⟩ := List.getElem?_eq_some_iff.mp hv₀
    refine ⟨v, rest, rfl, hlt, ?_, rfl⟩
    obtain ⟨hlt', hget⟩ := List.getElem?_eq_some_iff.mp ht
    rw [List.map_set, hl, hv, ← hget, List.set_getElem_self]

theorem load_values (hg : g.height = base.length) (hr : g.isUnreachable = false) {arg : MemArg}
    {acc : Access} (hload : acc.isStore = false)
    (h : s.memoryStep arg acc ⟨stack.map Value.type ++ base, g :: fs⟩ = .ok d) :
    ∃ (a : UInt32) (rest : List Value), stack = .i32 a :: rest ∧
      d = ⟨acc.value :: rest.map Value.type ++ base, g :: fs⟩ := by
  obtain ⟨-, -, h⟩ := except_bind_ok_iff.mp h
  simp only [hload, Bool.false_eq_true, if_false] at h
  split at h
  · cases h
  · obtain ⟨c₁, he, hd⟩ := except_bind_ok_iff.mp h
    obtain ⟨a, rest, rfl, rfl⟩ := expect_word hg hr he
    obtain rfl := except_pure_ok_iff.mp hd
    exact ⟨a, rest, rfl, rfl⟩

theorem store_values (hg : g.height = base.length) (hr : g.isUnreachable = false) {arg : MemArg}
    {acc : Access} (hstore : acc.isStore = true) (hvalue : acc.value = .i32)
    (h : s.memoryStep arg acc ⟨stack.map Value.type ++ base, g :: fs⟩ = .ok d) :
    ∃ (v a : UInt32) (rest : List Value), stack = .i32 v :: .i32 a :: rest ∧
      d = ⟨rest.map Value.type ++ base, g :: fs⟩ := by
  obtain ⟨-, -, h⟩ := except_bind_ok_iff.mp h
  simp only [hstore, if_true, hvalue] at h
  split at h
  · cases h
  · obtain ⟨c₁, hv, ha⟩ := except_bind_ok_iff.mp h
    obtain ⟨v, rest, rfl, rfl⟩ := expect_word hg hr hv
    obtain ⟨a, rest, rfl, rfl⟩ := expect_word hg hr ha
    exact ⟨v, a, rest, rfl, rfl⟩

theorem leave_values (hg : g.height = base.length) (hr : g.isUnreachable = false)
    (ht : ∀ t ∈ g.type.results, t ≠ .unknown) {f : Frame}
    (h : Checker.leave ⟨stack.map Value.type ++ base, g :: fs⟩ = .ok (f, d)) :
    f = g ∧ d = ⟨base, fs⟩ ∧ stack.map Value.type = g.type.results.reverse := by
  obtain ⟨hf, hd⟩ := Checker.On.leave hg ⟨_, rfl⟩ h
  obtain ⟨c₁, hall, h⟩ := except_bind_ok_iff.mp h
  obtain ⟨vs, rest, hstack, hvs, rfl⟩ := Checker.expectAll_values hg hr ht hall
  split at h
  · rename_i hlen
    obtain rfl : rest = [] := by simpa [hg] using hlen
    rw [hstack, List.append_nil]
    exact ⟨hf, hd, hvs⟩
  · cases h

end Accepted

/-- A block that ends leaves its operands on those of the block around it. -/
theorem Describes.close (hd : s.Describes host final c labels stack) {f : Frame}
    (h : c.leave = .ok (f, d)) :
    ∃ l outer, labels = l :: outer ∧
      s.Describes host final (d.pushAll f.type.results) outer (stack ++ l.below) := by
  cases hd with
  | nil => cases h
  | forward _ hbelow hg hr _ ht =>
    obtain ⟨rfl, rfl, htypes⟩ := leave_values hg hr ht h
    have hclosed := hbelow.append stack
    rw [htypes] at hclosed
    exact ⟨_, _, rfl, hclosed⟩
  | back _ hbelow hg hr _ ht _ _ =>
    obtain ⟨rfl, rfl, htypes⟩ := leave_values hg hr (by simp [ht]) h
    have hclosed := hbelow.append stack
    rw [htypes] at hclosed
    exact ⟨_, _, rfl, hclosed⟩

/-- The operands that a branch to an open block takes along have known types. -/
theorem Describes.branchTypes_ne_unknown (hd : s.Describes host final c labels stack) {depth : Nat}
    {f : Frame} (hf : c.frames[depth]? = some f) : ∀ t ∈ f.branchTypes, t ≠ .unknown := by
  obtain ⟨l, outer, base, fs, -, -, hlabel⟩ := hd.label hf
  unfold Frame.branchTypes
  cases hlabel with
  | forward _ _ _ _ hk ht =>
    split
    · contradiction
    · exact ht
  | back _ _ _ _ hk ht => simp [hk, ht]

theorem Describes.enter (hd : s.Describes host final c labels stack) {kind : FrameKind}
    (hk : kind ≠ .loop) :
    s.Describes host final ⟨c.operands, ⟨kind, {}, c.operands.length, false⟩ :: c.frames⟩
      (.forward 0 stack :: labels) [] :=
  .forward [] hd rfl rfl hk (by simp)

theorem ifStart_values {base : List ValueType} {g : Frame} {fs : List Frame}
    (hg : g.height = base.length) (hr : g.isUnreachable = false)
    (h : s.blockStart .ifThen emptyType ⟨stack.map Value.type ++ base, g :: fs⟩ = .ok d) :
    ∃ (w : UInt32) (rest : List Value), stack = .i32 w :: rest ∧
      d = ⟨rest.map Value.type ++ base,
        ⟨.ifThen, {}, (rest.map Value.type ++ base).length, false⟩ :: g :: fs⟩ := by
  obtain ⟨type, htype, h⟩ := except_bind_ok_iff.mp h
  cases htype
  obtain ⟨c₁, hword, hd⟩ := except_bind_ok_iff.mp h
  obtain ⟨w, rest, rfl, rfl⟩ := expect_word hg hr hword
  exact ⟨w, rest, rfl, (Except.ok.inj hd).symm⟩

/-- A block that is passed over leaves the operands as they are. -/
theorem Describes.skip (hd : s.Describes host final c labels stack) (hc : c.frames ≠ [])
    {kind : FrameKind}
    (hcode : s.Checks code ⟨c.operands, ⟨kind, {}, c.operands.length, false⟩ :: c.frames⟩
      ⟨final, []⟩)
    (hrun : ∀ i ∈ code, i.Runnable s.module host) (hl : locals.map Value.type = s.locals) :
    s.Safe host final (Machine.skip ⟨code, labels, stack, locals, store⟩ emptyType) := by
  have hin : Checker.Inside [] c.operands c.frames 0
      ⟨[] ++ c.operands, ⟨kind, {}, c.operands.length, false⟩ :: c.frames⟩ := .here [] rfl rfl
  obtain ⟨after, hafter, hsuffix, hchecks⟩ :=
    hin.afterEnd hcode fun i hi => (hrun i hi).wellShaped
  simp only [Machine.skip, hafter, if_true]
  exact ⟨hl, fun i hi => hrun i (hsuffix.subset hi), c, hc, hd, hchecks⟩

/-- A branch that may be taken has the operands for it, and leaves them if it is not. -/
theorem Describes.branchIf {base : List ValueType} {g : Frame} {fs : List Frame}
    (hd : s.Describes host final ⟨stack.map Value.type ++ base, g :: fs⟩ labels stack)
    (hg : g.height = base.length) (hr : g.isUnreachable = false) {l : UInt32}
    (h : (do
      let types ← Checker.label ⟨stack.map Value.type ++ base, g :: fs⟩ l
      let c ← Checker.expectAll ⟨stack.map Value.type ++ base, g :: fs⟩ types
      return c.pushAll types) = Except.ok d) :
    d = ⟨stack.map Value.type ++ base, g :: fs⟩ ∧
      ∃ f vs rest, (g :: fs)[l.toNat]? = some f ∧ stack = vs ++ rest ∧
        vs.map Value.type = f.branchTypes.reverse := by
  obtain ⟨types, hlabel, h⟩ := except_bind_ok_iff.mp h
  unfold Checker.label at hlabel
  split at hlabel
  · rename_i f hf
    cases hlabel
    obtain ⟨c₁, hall, hd'⟩ := except_bind_ok_iff.mp h
    obtain ⟨vs, rest, rfl, hvs, rfl⟩ :=
      Checker.expectAll_values hg hr (hd.branchTypes_ne_unknown hf) hall
    obtain rfl := except_pure_ok_iff.mp hd'
    refine ⟨?_, f, vs, rest, hf, rfl, hvs⟩
    rw [Checker.pushAll, ← hvs, List.map_append, List.append_assoc]
  · cases hlabel

theorem call_step {f : UInt32} (ht : s.module.funcType? f = some HostCall.type) :
    s.step ⟨Op.call, .call f⟩ c = (do
      let c ← c.expectAll (List.replicate 4 .i32)
      return c.pushAll HostCall.type.results) := by
  conv => lhs; whnf
  rw [ht]
  rfl

theorem Safe.of_next {m m' : Machine} (h : Next host m m') (hm : s.WellTyped host final m') :
    s.Safe host final (Machine.step host m) := by
  rw [show Machine.step host m = _ from h]
  exact hm

/-- A step of a well-typed machine is safe. -/
theorem step_safe {m : Machine} (hm : s.WellTyped host final m) :
    s.Safe host final (Machine.step host m) := by
  obtain ⟨code, labels, stack, locals, store⟩ := m
  obtain ⟨hl, hrun, c, hc, hd, hcode⟩ := hm
  cases code with
  | nil => exact absurd (congrArg Checker.frames hcode) hc
  | cons i code =>
  obtain ⟨-, d, hstep, hcode⟩ := hcode
  simp only [List.mem_cons, forall_eq_or_imp] at hrun
  obtain ⟨hi, hrun⟩ := hrun
  obtain ⟨base, g, fs, rfl, hg, hr, hset⟩ := hd.innermost hc
  have hgo {stack' locals' : List Value} {store' : Store}
      (hl' : locals'.map Value.type = s.locals)
      (hd' : d = ⟨stack'.map Value.type ++ base, g :: fs⟩) :
      s.WellTyped host final ⟨code, labels, stack', locals', store'⟩ :=
    ⟨hl', hrun, d, hd' ▸ List.cons_ne_nil _ _, hd' ▸ hset stack', hcode⟩
  cases hi with
  | unreachable => trivial
  | nop => exact hgo hl (Except.ok.inj hstep).symm
  | block =>
    obtain rfl := blockStart_empty (by decide) hstep
    exact ⟨hl, hrun, _, List.cons_ne_nil _ _, hd.enter (by decide), hcode⟩
  | loop =>
    obtain rfl := blockStart_empty (by decide) hstep
    exact ⟨hl, hrun, _, List.cons_ne_nil _ _, .back [] hd rfl rfl rfl rfl hcode hrun, hcode⟩
  | ifThen =>
    obtain ⟨w, rest, rfl, rfl⟩ := ifStart_values hg hr hstep
    by_cases hw : w = 0
    · subst hw
      exact (hset rest).skip hc hcode hrun hl
    · exact .of_next (next_ifThen hw)
        ⟨hl, hrun, _, List.cons_ne_nil _ _, (hset rest).enter (by decide), hcode⟩
  | stop =>
    obtain ⟨⟨f, c₁⟩, hleave, h⟩ := except_bind_ok_iff.mp hstep
    obtain ⟨l, outer, rfl, hclosed⟩ := hd.close hleave
    simp only at h
    split at h
    · cases h
    · obtain rfl := except_pure_ok_iff.mp h
      exact hclosed.resume hcode hrun hl
  | brIf l =>
    obtain ⟨c₁, hword, h⟩ := except_bind_ok_iff.mp hstep
    obtain ⟨w, rest, rfl, rfl⟩ := expect_word hg hr hword
    obtain ⟨rfl, f, vs, below, hf, hrest, hvs⟩ := (hset rest).branchIf hg hr h
    change s.Safe host final (if w = 0 then _ else _)
    split
    · exact hgo hl rfl
    · exact (hset rest).branch hcode hrun hl hf hrest hvs
  | call hf ht =>
    rw [call_step ht] at hstep
    obtain ⟨ws, rest, hlen, rfl, hd'⟩ := apply_values hg hr hstep
    match ws, hlen with
    | [result, count, descriptors, stream], _ =>
      exact .of_next (next_call hf) (hgo hl hd')
  | drop =>
    obtain ⟨⟨t, c₁⟩, hpop, hc₁⟩ := except_bind_ok_iff.mp hstep
    obtain ⟨v, rest, rfl, rfl, rfl⟩ := Checker.pop_values hg hr hpop
    exact hgo hl (except_pure_ok_iff.mp hc₁).symm
  | localGet n =>
    obtain ⟨v, hv, hd'⟩ := localGet_values hl hstep
    exact .of_next (next_localGet hv) (hgo hl hd')
  | localSet n =>
    obtain ⟨v, rest, rfl, hlt, hl', hd'⟩ := localSet_values hg hr hl hstep
    exact .of_next (next_localSet hlt) (hgo hl' hd')
  | load arg =>
    obtain ⟨a, rest, rfl, hd'⟩ := load_values hg hr rfl hstep
    change s.Safe host final (Machine.load ⟨code, labels, .i32 a :: rest, locals, store⟩ arg)
    unfold Machine.load
    simp only
    split
    · exact hgo hl hd'
    · trivial
  | storeWord arg =>
    obtain ⟨v, a, rest, rfl, hd'⟩ := store_values hg hr rfl rfl hstep
    change s.Safe host final (ite _ _ _)
    split
    · exact hgo hl hd'
    · trivial
  | storeByte arg =>
    obtain ⟨v, a, rest, rfl, hd'⟩ := store_values hg hr rfl rfl hstep
    change s.Safe host final (ite _ _ _)
    split
    · exact hgo hl hd'
    · trivial
  | const k => exact hgo hl (Except.ok.inj hstep).symm
  | eqz =>
    obtain ⟨ws, rest, hlen, rfl, hd'⟩ := apply_values hg hr (n := 1) hstep
    match ws, hlen with
    | [a], _ => exact hgo hl hd'
  | eq | ne | add | sub =>
    obtain ⟨ws, rest, hlen, rfl, hd'⟩ := apply_values hg hr (n := 2) hstep
    match ws, hlen with
    | [b, a], _ => exact hgo hl hd'

/-- A run of a well-typed machine never gets stuck. -/
theorem WellTyped.not_sticks {m : Machine} (hm : s.WellTyped host final m) : ¬ Sticks host m := by
  rintro ⟨n, m', h⟩
  induction n generalizing m with
  | zero => cases h
  | succ n ih =>
    have hsafe := step_safe hm
    cases hstep : Machine.step host m with
    | next m₁ =>
      rw [hstep] at hsafe
      rw [run_succ_of_next hstep] at h
      exact ih hsafe h
    | finished | trapped =>
      rw [run, hstep] at h
      cases h
    | stuck =>
      rw [hstep] at hsafe
      exact hsafe

/-- A machine at the start of an accepted body is well typed. -/
theorem wellTyped_start (hcode : s.checkCode code = .ok ())
    (hrun : ∀ i ∈ code, i.Runnable s.module host) (hl : locals.map Value.type = s.locals)
    (hresults : ∀ t ∈ s.results, t ≠ .unknown) :
    ∃ final, s.WellTyped host final (Machine.start code s.results.length locals store) := by
  obtain ⟨final, hchecks⟩ := checkCode_eq_ok_iff.mp hcode
  exact ⟨final, hl, hrun, _, List.cons_ne_nil _ _,
    .forward [] (.nil []) rfl rfl FrameKind.noConfusion hresults, hchecks⟩

end Scope
end TapeWasm.Wasm
