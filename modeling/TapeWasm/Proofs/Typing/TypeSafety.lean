import TapeWasm.Engine.Instance
import TapeWasm.Proofs.Typing.Numbering
import TapeWasm.Proofs.Typing.Safety
import TapeWasm.Proofs.Typing.Validate

/-!
Type safety of valid modules. A run of a valid module's function never gets stuck: it ends with
values of the declared types, ends in a trap, or goes on forever.
-/
namespace TapeWasm.Wasm

open Machine

/-- The opcodes that the machine runs: those of generated code, `nop` and `unreachable`. -/
def Machine.opcodes : List UInt8 :=
  [Op.unreachable, Op.nop, Op.block, Op.loop, Op.ifThen, Op.stop, Op.brIf, Op.call, Op.drop,
    Op.localGet, Op.localSet, Op.i32Load, Op.i32Store, Op.i32Store8, Op.i32Const, Op.i32Eqz,
    Op.i32Eq, Op.i32Ne, Op.i32Add, Op.i32Sub]

/-- An instruction with one of these opcodes, blocks that take and leave nothing, and calls to
nothing but the imports, of which there are so many. -/
structure Instr.Executable (imports : Nat) (i : Instr) : Prop where
  op : i.op ∈ Machine.opcodes
  block : ∀ t, i.imm = .block t → t = emptyType
  call : ∀ f, i.imm = .call f → f.toNat < imports

/-- The module imports nothing but the host's functions that move bytes, by their type. -/
structure Module.ImportsHost (m : Module) (host : List HostCall) : Prop where
  calls : m.imports.mapM Instance.hostCall = .ok host
  types : ∀ t ∈ m.importedFuncs, m.types[t.toNat]? = some HostCall.type

theorem Instance.func_of_hostCall {i : Import} {c : HostCall}
    (h : Instance.hostCall i = .ok c) : ∃ t, i.desc = .func t := by
  unfold Instance.hostCall at h
  split at h
  · cases h
  · split at h
    · rename_i t _ hdesc _
      exact ⟨t, hdesc⟩
    · cases h

theorem Instance.mapM_hostCall {is : List Import} {host : List HostCall}
    (h : is.mapM Instance.hostCall = .ok host) :
    host.length = is.length ∧ ∀ i ∈ is, ∃ t, i.desc = .func t := by
  induction is generalizing host with
  | nil =>
    rw [List.mapM_nil, except_pure_ok_iff] at h
    subst h
    exact ⟨rfl, by simp⟩
  | cons i is ih =>
    rw [List.mapM_cons] at h
    obtain ⟨c, hc, h⟩ := except_bind_ok_iff.mp h
    obtain ⟨cs, hcs, h⟩ := except_bind_ok_iff.mp h
    obtain rfl := except_pure_ok_iff.mp h
    obtain ⟨hlen, hfunc⟩ := ih hcs
    refine ⟨by rw [List.length_cons, List.length_cons, hlen], ?_⟩
    rw [List.forall_mem_cons]
    exact ⟨func_of_hostCall hc, hfunc⟩

namespace Module.ImportsHost

variable {m : Module} {host : List HostCall}

theorem length_importedFuncs (h : m.ImportsHost host) :
    m.importedFuncs.length = m.imports.length := by
  refine List.filterMap_length_eq_length.mpr fun i hi => ?_
  obtain ⟨t, ht⟩ := (Instance.mapM_hostCall h.calls).2 i hi
  rw [Import.func?, ht]
  rfl

/-- Every import is one of the host's functions and has their type. -/
theorem call (h : m.ImportsHost host) {f : UInt32} (hf : f.toNat < m.imports.length) :
    (∃ c, host[f.toNat]? = some c) ∧ m.funcType? f = some HostCall.type := by
  have hhost : f.toNat < host.length := by rwa [(Instance.mapM_hostCall h.calls).1]
  have himported : f.toNat < m.importedFuncs.length := by rwa [h.length_importedFuncs]
  refine ⟨⟨_, List.getElem?_eq_getElem hhost⟩, ?_⟩
  rw [Module.funcType?_eq_getElem?, List.getElem?_append_left himported,
    List.getElem?_eq_getElem himported]
  exact h.types _ (List.getElem_mem himported)

/-- Instructions that the machine runs, with the immediates they take, can be run. -/
theorem runnable (h : m.ImportsHost host) {i : Instr} (hw : i.WellShaped)
    (hi : i.Executable m.imports.length) : i.Runnable m host := by
  obtain ⟨op, imm⟩ := i
  obtain ⟨hop, hblock, hcall⟩ := hi
  have hshape : shape? op = some imm.shape := hw
  simp only [Machine.opcodes, List.mem_cons, List.not_mem_nil, or_false] at hop
  by_cases hc : op = Op.call
  · subst hc
    obtain ⟨f, rfl⟩ : ∃ f, imm = .call f := by
      cases imm <;> first | exact ⟨_, rfl⟩ | cases hshape
    obtain ⟨⟨c, hc⟩, ht⟩ := h.call (hcall f rfl)
    exact .call hc ht
  · -- The opcode tells the kind of immediate, and only that of blocks is restricted further.
    rcases hop with rfl | rfl | rfl | rfl | rfl | rfl | rfl | rfl | rfl | rfl | rfl | rfl | rfl |
      rfl | rfl | rfl | rfl | rfl | rfl | rfl <;> cases imm <;> cases hshape
    all_goals first
      | exact absurd rfl hc
      | constructor
      | obtain rfl := hblock _ rfl
        constructor

end Module.ImportsHost

namespace Scope

variable {s : Scope} {host : List HostCall} {final : List ValueType} {m : Machine}

/-- A run did not get stuck: it ended with operands of the types in `final`, trapped, or has come
to a well-typed machine. -/
def SafeSoFar (s : Scope) (host : List HostCall) (final : List ValueType) : Outcome → Prop
  | .finished m => m.stack.map Value.type = final
  | .trapped _ _ => True
  | .stuck _ => False
  | .unfinished m => s.WellTyped host final m

/-- A run of a well-typed machine is safe, however long it is. -/
theorem WellTyped.run (hm : s.WellTyped host final m) (n : Nat) :
    s.SafeSoFar host final (Machine.run host n m) := by
  induction n generalizing m with
  | zero => exact hm
  | succ n ih =>
    have hsafe := step_safe hm
    cases hstep : Machine.step host m with
    | next m' =>
      rw [hstep] at hsafe
      rw [run_succ_of_next hstep]
      exact ih hsafe
    | finished m' =>
      rw [hstep] at hsafe
      rw [Machine.run, hstep]
      exact hsafe.2
    | trapped t m' =>
      rw [Machine.run, hstep]
      trivial
    | stuck m' =>
      rw [hstep] at hsafe
      exact absurd hsafe not_false

theorem WellTyped.reaches {m' : Machine} (hm : s.WellTyped host final m)
    (h : Reaches host m m') : s.WellTyped host final m' := by
  induction h with
  | refl => exact hm
  | tail _ hnext ih =>
    have hsafe := step_safe ih
    rw [show Machine.step host _ = _ from hnext] at hsafe
    exact hsafe

/-- No machine that a well-typed one comes to is stuck. -/
theorem WellTyped.step_ne_stuck {m' : Machine} (hm : s.WellTyped host final m)
    (h : Reaches host m m') (r : Machine) : Machine.step host m' ≠ .stuck r := by
  intro hstuck
  have hsafe := step_safe (hm.reaches h)
  rw [hstuck] at hsafe
  exact hsafe

/-- A run of a well-typed machine finishes, traps or goes on forever. -/
theorem WellTyped.ends (hm : s.WellTyped host final m) :
    (∃ r, Finishes host m r ∧ r.stack.map Value.type = final) ∨ Traps host m ∨
      ∀ n, ∃ r, Machine.run host n m = .unfinished r := by
  by_cases h : ∀ n, ∃ r, Machine.run host n m = .unfinished r
  · exact .inr (.inr h)
  · obtain ⟨n, hn⟩ := not_forall.mp h
    have hsafe := hm.run n
    cases hrun : Machine.run host n m with
    | finished r =>
      rw [hrun] at hsafe
      exact .inl ⟨r, ⟨n, hrun⟩, hsafe⟩
    | trapped t r => exact .inr (.inl ⟨n, t, r, hrun⟩)
    | stuck r =>
      rw [hrun] at hsafe
      exact absurd hsafe not_false
    | unfinished r => exact absurd ⟨r, hrun⟩ hn

/-- Accepted code leaves the results and nothing else. -/
theorem Checks.final_eq {code : List Instr}
    (h : s.Checks code (Checker.enter {} .block { results := s.results }) ⟨final, []⟩)
    (hw : ∀ i ∈ code, i.WellShaped) : final = s.results.reverse := by
  have hin : Checker.Inside s.results [] [] 0
      (Checker.enter {} .block { results := s.results }) := .here [] rfl rfl
  obtain ⟨rest, -, -, hrest⟩ := hin.afterEnd h hw
  -- There is no open block left, so that no instruction can follow.
  cases rest with
  | nil =>
    have hoperands := congrArg Checker.operands (show _ = _ from hrest)
    simpa using hoperands.symm
  | cons i is => exact absurd rfl hrest.1

end Scope

namespace Module

variable {m : Module}

/-- Every body is accepted for the type of its own function. -/
theorem checkBody_of_getElem {bs : List Body} {n k : Nat} {b : Body}
    (h : m.checkBodiesFrom bs n = .ok ()) (hb : bs[k]? = some b) :
    ∃ type, m.funcType? (UInt32.ofNat (n + k)) = some type ∧ m.checkBody type b = .ok () := by
  induction bs generalizing n k with
  | nil => cases hb
  | cons b' bs ih =>
    unfold checkBodiesFrom at h
    split at h
    · cases h
    · rename_i type htype
      split at h
      · rename_i hcheck
        cases k with
        | zero =>
          cases hb
          exact ⟨type, htype, hcheck⟩
        | succ k =>
          obtain ⟨type', htype', hcheck'⟩ := ih h hb
          exact ⟨type', by rwa [Nat.add_right_comm] at htype', hcheck'⟩
      · cases h

/-- A function of a valid module has a body that is accepted for its type. -/
theorem exists_body (hstructure : m.checkStructure = .ok ()) (hbodies : m.checkBodies = .ok ())
    {f : UInt32} {type : FuncType} (hf : m.funcType? f = some type)
    (hdefined : m.importedFuncs.length ≤ f.toNat) :
    ∃ body, m.bodies[f.toNat - m.importedFuncs.length]? = some body ∧
      m.checkBody type body = .ok () := by
  have hlt := lt_numFuncs_of_funcType? hf
  have hcount := length_bodies_of_checkStructure hstructure
  have hbody : f.toNat - m.importedFuncs.length < m.bodies.length := by
    rw [numFuncs, importCount_func] at hlt
    omega
  refine ⟨_, List.getElem?_eq_getElem hbody, ?_⟩
  obtain ⟨type', htype', hcheck⟩ :=
    checkBody_of_getElem hbodies (List.getElem?_eq_getElem hbody)
  rw [importCount_func, Nat.add_sub_cancel' hdefined, UInt32.ofNat_toNat, hf] at htype'
  cases htype'
  exact hcheck

end Module

/-- Zeroed variables have the types that are declared for them. -/
theorem Body.type_zero_localTypes {b : Body} (h : ∀ l ∈ b.locals, l.type.isValid) :
    (b.localTypes.map Value.zero).map Value.type = b.localTypes := by
  have hzero : ∀ t ∈ b.localTypes, Value.type (Value.zero t) = t := by
    intro t ht
    obtain ⟨l, hl, ht⟩ := List.mem_flatMap.mp ht
    rw [List.eq_of_mem_replicate ht]
    exact Value.type_zero (h l hl)
  calc
    (b.localTypes.map Value.zero).map Value.type
    _ = b.localTypes.map fun t => Value.type (Value.zero t) := List.map_map
    _ = b.localTypes.map id := List.map_congr_left hzero
    _ = b.localTypes := List.map_id _

/-- Functions of valid modules are type safe. A function without parameters, in a module that uses
only what the machine runs, never comes to an instruction that cannot be run, whatever the memory
and the input. It ends with values of exactly the declared types, in a trap, or not at all. -/
theorem Module.validateBytes_type_safe {b : Bytes} {m : Module} {host : List HostCall}
    {f : UInt32} {results : List ValueType} (hvalid : validateBytes b = .ok ())
    (hm : decode b = .ok m) (hhost : m.ImportsHost host)
    (hcode : ∀ body ∈ m.bodies, ∀ code, Instr.decodeAll body.code = .ok code →
      ∀ i ∈ code, i.Executable m.imports.length)
    (hdefined : m.importedFuncs.length ≤ f.toNat)
    (hf : m.funcType? f = some { params := [], results }) :
    ∃ body code, m.bodies[f.toNat - m.importedFuncs.length]? = some body ∧
      Instr.decodeAll body.code = .ok code ∧
      ∀ store, let start :=
          Machine.start code results.length (body.localTypes.map Value.zero) store
        (∀ r, Reaches host start r → ∀ r', Machine.step host r ≠ .stuck r') ∧
        ((∃ r, Finishes host start r ∧ r.stack.reverse.map Value.type = results) ∨
          Traps host start ∨ ∀ n, ∃ r, Machine.run host n start = .unfinished r) := by
  obtain ⟨m', hm', hstructure, hbodies⟩ := validateBytes_eq_ok_iff.mp hvalid
  obtain rfl := Except.ok.inj (hm.symm.trans hm')
  obtain ⟨hencodable, -⟩ := decode_ok hm
  obtain ⟨body, hbody, hcheck⟩ := exists_body hstructure hbodies hf hdefined
  have hmem := List.mem_of_getElem? hbody
  obtain ⟨code, hdecode, hcheck⟩ := checkBody_eq_ok_iff.mp hcheck
  obtain ⟨final, hchecks⟩ := Scope.checkCode_eq_ok_iff.mp hcheck
  have hw : ∀ i ∈ code, i.WellShaped := fun i hi => ((Instr.decodeAll_ok hdecode).1 i hi).wellShaped
  have hfinal : final = results.reverse := hchecks.final_eq hw
  have hknown : ∀ t ∈ results, t ≠ .unknown := by
    rintro t ht rfl
    exact absurd ((hencodable.types.items _ (mem_types_of_funcType? hf)).results _ ht) (by decide)
  refine ⟨body, code, hbody, hdecode, fun store => ?_⟩
  have htyped : Scope.WellTyped ⟨m, body.localTypes, results⟩ host final
      (Machine.start code results.length (body.localTypes.map Value.zero) store) :=
    ⟨Body.type_zero_localTypes (hencodable.bodies.items body hmem).types,
      fun i hi => hhost.runnable (hw i hi) (hcode body hmem code hdecode i hi), _,
      List.cons_ne_nil _ _, .forward [] (.nil []) rfl rfl FrameKind.noConfusion hknown, hchecks⟩
  refine ⟨fun r hr r' => htyped.step_ne_stuck hr r', ?_⟩
  rcases htyped.ends with ⟨r, hr, htypes⟩ | htraps | hforever
  · refine .inl ⟨r, hr, ?_⟩
    rw [List.map_reverse, htypes, hfinal, List.reverse_reverse]
  · exact .inr (.inl htraps)
  · exact .inr (.inr hforever)

/-- A function that leaves a word by a branch over code that cannot be reached. -/
def branchingCode : List Instr :=
  [⟨Op.i32Const, .i32 7⟩, ⟨Op.i32Const, .i32 1⟩, ⟨Op.brIf, .branch 0⟩, ⟨Op.drop, .none⟩,
    ⟨Op.unreachable, .none⟩, ⟨Op.i32Add, .none⟩, ⟨Op.stop, .none⟩]

def branchingModule : Module where
  types := [HostCall.type, { params := [], results := [.i32] }]
  imports := [⟨HostCall.hostModule, HostCall.write.name, .func 0⟩]
  funcs := [1]
  bodies := [{ code := [65, 7, 65, 1, 13, 0, 26, 0, 106, 11] }]

def branchingBytes : Bytes :=
  [0, 97, 115, 109, 1, 0, 0, 0, 1, 13, 2, 96, 4, 127, 127, 127, 127, 1, 127, 96, 0, 1, 127, 2, 35,
   1, 22, 119, 97, 115, 105, 95, 115, 110, 97, 112, 115, 104, 111, 116, 95, 112, 114, 101, 118, 105,
   101, 119, 49, 8, 102, 100, 95, 119, 114, 105, 116, 101, 0, 0, 3, 2, 1, 1, 10, 13, 1, 11, 0, 65,
   7, 65, 1, 13, 0, 26, 0, 106, 11]

theorem Module.validateBytes_type_safe_branching :
    validateBytes branchingBytes = .ok () ∧ decode branchingBytes = .ok branchingModule ∧
      ∀ store, let start := Machine.start branchingCode 1 [] store
        (∀ r, Reaches [.write] start r → ∀ r', Machine.step [.write] r ≠ .stuck r') ∧
        ((∃ r, Finishes [.write] start r ∧ r.stack.reverse.map Value.type = [.i32]) ∨
          Traps [.write] start ∨ ∀ n, ∃ r, Machine.run [.write] n start = .unfinished r) := by
  have himported : branchingModule.importedFuncs = [0] := rfl
  have hhost : branchingModule.ImportsHost [.write] :=
    ⟨rfl, by rw [himported, List.forall_mem_singleton]; rfl⟩
  have hcode : ∀ body ∈ branchingModule.bodies, ∀ code, Instr.decodeAll body.code = .ok code →
      ∀ i ∈ code, i.Executable branchingModule.imports.length := by
    intro body hbody code hdecode i hi
    obtain rfl := List.mem_singleton.mp hbody
    obtain rfl : branchingCode = code := Except.ok.inj hdecode
    simp only [branchingCode, List.mem_cons, List.not_mem_nil, or_false] at hi
    rcases hi with rfl | rfl | rfl | rfl | rfl | rfl | rfl <;> exact ⟨by decide, by simp, by simp⟩
  have hvalid : validateBytes branchingBytes = .ok () := by rfl
  have hm : decode branchingBytes = .ok branchingModule := by rfl
  obtain ⟨body, code, hbody, hdecode, hsafe⟩ :=
    validateBytes_type_safe (f := 1) hvalid hm hhost hcode (by decide) rfl
  obtain rfl := Option.some.inj hbody
  obtain rfl : branchingCode = code := Except.ok.inj hdecode
  exact ⟨hvalid, hm, hsafe⟩

end TapeWasm.Wasm
