import Mathlib.Data.List.Basic
import TapeWasm.Wasm.Structure
import TapeWasm.Wasm.Typing

/-!
How functions and globals are numbered: the imports of the kind in the order in which they stand among
all imports, then the definitions. An index is looked up by counting it down along the imports, exports
are held to limits that are counted beforehand, and bodies are paired with functions by position. In a
module of sound structure the three agree: the indices with a type are those below the limit, and body
after body belongs to function after function.
-/
namespace TapeWasm.Wasm

theorem toNat_sub_one {n : UInt32} (h : n ≠ 0) : (n - 1).toNat + 1 = n.toNat := by
  have hpos : n.toNat ≠ 0 := fun hn => h (UInt32.toNat_inj.mp hn)
  have hle : 1 ≤ n := UInt32.le_iff_toNat_le.mpr (Nat.one_le_iff_ne_zero.mpr hpos)
  rw [UInt32.toNat_sub_of_le _ _ hle, UInt32.toNat_one]
  omega

namespace Import

/-- The import of a kind that stands behind `n` others of it. -/
def IsNth (kind : UInt8) (is : List Import) (n : Nat) (i : Import) : Prop :=
  ∃ before after, is = before ++ i :: after ∧ i.desc.kind = kind ∧
    before.countP (fun j => j.desc.kind = kind) = n

variable {kind : UInt8} {is : List Import} {n : Nat} {i j : Import}

theorem IsNth.cons_of_ne (h : IsNth kind is n i) (hj : j.desc.kind ≠ kind) :
    IsNth kind (j :: is) n i := by
  obtain ⟨before, after, rfl, hi, hcount⟩ := h
  exact ⟨j :: before, after, rfl, hi, by simp [hj, hcount]⟩

theorem IsNth.cons_of_eq (h : IsNth kind is n i) (hj : j.desc.kind = kind) :
    IsNth kind (j :: is) (n + 1) i := by
  obtain ⟨before, after, rfl, hi, hcount⟩ := h
  exact ⟨j :: before, after, rfl, hi, by simp [hj, hcount]⟩

theorem isSome_func? (i : Import) : i.func?.isSome = decide (i.desc.kind = ExternKind.func) := by
  obtain ⟨module, name, desc⟩ := i
  cases desc with
  | other kind plain => simp [func?, ImportDesc.kind, plain.1]
  | func | memory | globalVar => rfl

theorem isSome_globalVar? (i : Import) :
    i.globalVar?.isSome = decide (i.desc.kind = ExternKind.globalVar) := by
  obtain ⟨module, name, desc⟩ := i
  cases desc with
  | other kind plain => simp [globalVar?, ImportDesc.kind, plain.2.2]
  | func | memory | globalVar => rfl

theorem func?_eq (h : i.desc.kind = ExternKind.func) : i.func? = some i.desc.typeIndex := by
  obtain ⟨module, name, desc⟩ := i
  cases desc with
  | func t => rfl
  | memory | globalVar => cases h
  | other kind plain => exact absurd h plain.1

theorem globalVar?_eq (h : i.desc.kind = ExternKind.globalVar) :
    i.globalVar? = some i.desc.globalType? := by
  obtain ⟨module, name, desc⟩ := i
  cases desc with
  | globalVar g => rfl
  | func | memory => cases h
  | other kind plain => exact absurd h plain.2.2

/-- Leaving out the imports of other kinds keeps the numbers of those of one kind. -/
theorem IsNth.getElem?_filterMap {pick : Import → Option α}
    (hpick : ∀ i, (pick i).isSome = decide (i.desc.kind = kind)) (h : IsNth kind is n i) :
    (is.filterMap pick)[n]? = pick i := by
  obtain ⟨before, after, rfl, hi, rfl⟩ := h
  obtain ⟨a, ha⟩ := Option.isSome_iff_exists.mp ((hpick i).trans (decide_eq_true hi))
  have hlength : (before.filterMap pick).length = before.countP fun j => j.desc.kind = kind := by
    rw [List.length_filterMap_eq_countP]
    simp only [hpick]
  rw [List.filterMap_append, List.filterMap_cons_some ha, ← hlength,
    List.getElem?_append_right (Nat.le_refl _), Nat.sub_self, ha]
  rfl

end Import

namespace Module

variable {m : Module} {kind : UInt8} {is : List Import} {n : UInt32}

theorem importCount_eq_countP (m : Module) (kind : UInt8) :
    m.importCount kind = m.imports.countP fun i => i.desc.kind = kind := by
  have hfold (is : List Import) (k : Nat) :
      is.foldl (fun n i => if i.desc.kind = kind then n + 1 else n) k =
        k + is.countP fun i => i.desc.kind = kind := by
    induction is generalizing k with
    | nil => rfl
    | cons i is ih =>
      rw [List.foldl_cons, ih]
      by_cases hi : i.desc.kind = kind
      · simp [hi, Nat.add_assoc, Nat.add_comm 1]
      · simp [hi]
  exact (hfold m.imports 0).trans (Nat.zero_add _)

/-- Counting down stops at the import whose number the index is. -/
theorem importedAt_of_lt (h : n.toNat < is.countP fun i => i.desc.kind = kind) :
    ∃ i, Import.IsNth kind is n.toNat i ∧ importedAt kind is n = .imported i := by
  induction is generalizing n with
  | nil => cases h
  | cons i is ih =>
    by_cases hi : i.desc.kind = kind
    · rw [List.countP_cons_of_pos (by simpa using hi)] at h
      by_cases hn : n = 0
      · exact ⟨i, ⟨[], is, rfl, hi, by simp [hn]⟩, by simp [importedAt, hi, hn]⟩
      · have hpred := toNat_sub_one hn
        obtain ⟨j, hj, hat⟩ := ih (n := n - 1) (by omega)
        exact ⟨j, hpred ▸ hj.cons_of_eq hi, by simp [importedAt, hi, hn, hat]⟩
    · rw [List.countP_cons_of_neg (by simpa using hi)] at h
      obtain ⟨j, hj, hat⟩ := ih h
      exact ⟨j, hj.cons_of_ne hi, by simp [importedAt, hi, hat]⟩

/-- An index past the imports is counted down by all of them. -/
theorem importedAt_of_le (h : is.countP (fun i => i.desc.kind = kind) ≤ n.toNat) :
    ∃ k, importedAt kind is n = .defined k ∧
      k.toNat = n.toNat - is.countP fun i => i.desc.kind = kind := by
  induction is generalizing n with
  | nil => exact ⟨n, rfl, rfl⟩
  | cons i is ih =>
    by_cases hi : i.desc.kind = kind
    · rw [List.countP_cons_of_pos (by simpa using hi)] at h ⊢
      have hn : n ≠ 0 := by
        rintro rfl
        simp at h
      have hpred := toNat_sub_one hn
      obtain ⟨k, hat, hk⟩ := ih (n := n - 1) (by omega)
      exact ⟨k, by simp [importedAt, hi, hn, hat], by omega⟩
    · rw [List.countP_cons_of_neg (by simpa using hi)] at h ⊢
      obtain ⟨k, hat, hk⟩ := ih h
      exact ⟨k, by simp [importedAt, hi, hat], hk⟩

/-- Indices stand for the imports of a kind, and then for the definitions: `resolve` answers what
`ofImport` and `ofDefinition` say of them. -/
structure Resolves (m : Module) (kind : UInt8) (ofImport : Import → Option β) (definitions : List α)
    (ofDefinition : α → Option β) (resolve : UInt32 → Option β) : Prop where
  counted : m.importCount kind = m.imports.countP fun i => i.desc.kind = kind
  imported : ∀ n : UInt32, n.toNat < m.importCount kind →
    ∃ i, Import.IsNth kind m.imports n.toNat i ∧ resolve n = ofImport i
  defined : ∀ n : UInt32, m.importCount kind ≤ n.toNat →
    resolve n = definitions[n.toNat - m.importCount kind]?.bind ofDefinition

theorem resolves (m : Module) (kind : UInt8) (ofImport : Import → Option β) (definitions : List α)
    (ofDefinition : α → Option β) :
    m.Resolves kind ofImport definitions ofDefinition fun n =>
      (importedAt kind m.imports n).resolve ofImport definitions ofDefinition where
  counted := m.importCount_eq_countP kind
  imported := by
    intro n hn
    rw [importCount_eq_countP] at hn
    obtain ⟨i, hi, hat⟩ := importedAt_of_lt hn
    exact ⟨i, hi, by rw [hat, Target.resolve]⟩
  defined := by
    intro n hn
    rw [importCount_eq_countP] at hn ⊢
    obtain ⟨k, hat, hk⟩ := importedAt_of_le hn
    rw [hat, Target.resolve, hk]

theorem resolves_funcType? (m : Module) :
    m.Resolves ExternKind.func (fun i => m.typeAt? i.desc.typeIndex) m.funcs m.typeAt? m.funcType? :=
  m.resolves _ _ _ _

theorem resolves_globalType? (m : Module) :
    m.Resolves ExternKind.globalVar (fun i => i.desc.globalType?) m.globals (fun g => some g.type)
      m.globalType? :=
  m.resolves _ _ _ _

/-! The same numbering, read off the list of imports of a kind and definitions. -/

theorem importCount_eq_length {pick : Import → Option α}
    (hpick : ∀ i, (pick i).isSome = decide (i.desc.kind = kind)) :
    m.importCount kind = (m.imports.filterMap pick).length := by
  rw [importCount_eq_countP, List.length_filterMap_eq_countP]
  simp only [hpick]

@[simp] theorem importCount_func (m : Module) :
    m.importCount ExternKind.func = m.importedFuncs.length :=
  importCount_eq_length Import.isSome_func?

@[simp] theorem importCount_globalVar (m : Module) :
    m.importCount ExternKind.globalVar = m.importedGlobals.length :=
  importCount_eq_length Import.isSome_globalVar?

theorem funcType?_eq_getElem? (m : Module) (n : UInt32) :
    m.funcType? n = (m.importedFuncs ++ m.funcs)[n.toNat]?.bind m.typeAt? := by
  have hresolves := m.resolves_funcType?
  by_cases hn : n.toNat < m.importedFuncs.length
  · obtain ⟨i, hi, htype⟩ := hresolves.imported n (by rwa [importCount_func])
    have hget : m.importedFuncs[n.toNat]? = i.func? := hi.getElem?_filterMap Import.isSome_func?
    obtain ⟨-, -, -, hkind, -⟩ := hi
    rw [List.getElem?_append_left hn, hget, Import.func?_eq hkind, htype]
    rfl
  · rw [hresolves.defined n (by rw [importCount_func]; omega), importCount_func,
      List.getElem?_append_right (by omega)]

theorem globalType?_eq_getElem? (m : Module) (n : UInt32) :
    m.globalType? n =
      (m.importedGlobals ++ m.globals.map fun g => some g.type)[n.toNat]?.bind id := by
  have hresolves := m.resolves_globalType?
  by_cases hn : n.toNat < m.importedGlobals.length
  · obtain ⟨i, hi, htype⟩ := hresolves.imported n (by rwa [importCount_globalVar])
    have hget : m.importedGlobals[n.toNat]? = i.globalVar? :=
      hi.getElem?_filterMap Import.isSome_globalVar?
    obtain ⟨-, -, -, hkind, -⟩ := hi
    rw [List.getElem?_append_left hn, hget, Import.globalVar?_eq hkind, htype]
    rfl
  · rw [hresolves.defined n (by rw [importCount_globalVar]; omega), importCount_globalVar,
      List.getElem?_append_right (by omega), List.getElem?_map, Option.bind_map]
    rfl

theorem mem_types_of_funcType? {f : UInt32} {type : FuncType} (h : m.funcType? f = some type) :
    type ∈ m.types := by
  rw [funcType?_eq_getElem?] at h
  obtain ⟨t, -, ht⟩ := Option.bind_eq_some_iff.mp h
  exact List.mem_of_getElem? ht

theorem lt_numFuncs_of_funcType? {f : UInt32} {type : FuncType} (h : m.funcType? f = some type) :
    f.toNat < m.numFuncs := by
  rw [funcType?_eq_getElem?] at h
  obtain ⟨t, ht, -⟩ := Option.bind_eq_some_iff.mp h
  obtain ⟨hlt, -⟩ := List.getElem?_eq_some_iff.mp ht
  rwa [numFuncs, importCount_func, ← List.length_append]

/-! What a sound structure says about indices. -/

theorem structureFault?_of_checkStructure (h : m.checkStructure = .ok ()) :
    m.structureFault? = none := by
  unfold checkStructure at h
  split at h
  · assumption
  · cases h

theorem length_bodies_of_checkStructure (h : m.checkStructure = .ok ()) :
    m.bodies.length = m.funcs.length := by
  have hnone := structureFault?_of_checkStructure h
  simp only [structureFault?, Option.or_eq_none_iff] at hnone
  obtain ⟨-, -, -, -, hcount, -⟩ := hnone
  unfold bodyCountFault? at hcount
  split at hcount
  · assumption
  · cases hcount

theorem importTypesFault?_eq_none_iff {types : Nat} {n : Nat} :
    importTypesFault? types is n = none ↔ ∀ t ∈ is.filterMap Import.func?, t.toNat < types := by
  induction is generalizing n with
  | nil => simp [importTypesFault?]
  | cons i is ih =>
    obtain ⟨module, name, desc⟩ := i
    cases desc with
    | func t =>
      rw [List.filterMap_cons_some (rfl : Import.func? ⟨module, name, .func t⟩ = some t),
        List.forall_mem_cons, ← ih (n := n + 1), importTypesFault?]
      by_cases ht : t.toNat < types <;> simp [ht]
    | memory | globalVar | other =>
      rw [List.filterMap_cons_none (by rfl)]
      exact ih

theorem funcTypesFault?_eq_none_iff {types : Nat} {ts : List UInt32} {n : Nat} :
    funcTypesFault? types ts n = none ↔ ∀ t ∈ ts, t.toNat < types := by
  induction ts generalizing n with
  | nil => simp [funcTypesFault?]
  | cons t ts ih =>
    rw [List.forall_mem_cons, ← ih (n := n + 1), funcTypesFault?]
    by_cases ht : t.toNat < types <;> simp [ht]

theorem lt_limit_of_mem {es : List Export} {n : Nat} {seen : List String}
    (h : m.exportsFault? es n seen = none) {e : Export} (he : e ∈ es) :
    ∃ limit, m.indexSpace.limit? e.kind = some limit ∧ e.index < limit := by
  induction es generalizing n seen with
  | nil => cases he
  | cons e' es ih =>
    unfold exportsFault? at h
    split at h
    · cases h
    · split at h
      · cases h
      · rename_i limit hlimit
        split at h
        · rename_i hlt
          rcases List.mem_cons.mp he with rfl | he
          · exact ⟨limit, hlimit, hlt⟩
          · exact ih h he
        · cases h

theorem isSome_funcType?_of_start (h : m.startFault? = none) {f : UInt32} (hf : f ∈ m.start) :
    (m.funcType? f).isSome := by
  unfold startFault? at h
  rw [Option.mem_def.mp hf] at h
  cases htype : m.funcType? f with
  | none => simp [htype] at h
  | some type => rfl

/-- Where every type index is one, the functions with a type are all there are. -/
theorem isSome_funcType?_iff (h : ∀ t ∈ m.importedFuncs ++ m.funcs, t.toNat < m.types.length)
    (i : UInt32) : (m.funcType? i).isSome ↔ i.toNat < m.numFuncs := by
  constructor
  · intro hi
    obtain ⟨type, htype⟩ := Option.isSome_iff_exists.mp hi
    exact lt_numFuncs_of_funcType? htype
  · intro hi
    rw [numFuncs, importCount_func, ← List.length_append] at hi
    have ht := h _ (List.getElem_mem hi)
    rw [funcType?_eq_getElem?, List.getElem?_eq_getElem hi, Option.bind_some, typeAt?,
      List.getElem?_eq_getElem ht]
    rfl

/-- Bodies that all have a type fail by themselves, the first of those that do. -/
theorem checkBodiesFrom_error {bs : List Body} {n : Nat} {f : TypingFault}
    (htyped : ∀ k < bs.length, (m.funcType? (UInt32.ofNat (n + k))).isSome)
    (h : m.checkBodiesFrom bs n = .error f) :
    ∃ k body type fault, bs[k]? = some body ∧
      m.funcType? (UInt32.ofNat (n + k)) = some type ∧ m.checkBody type body = .error fault ∧
      f = .inFunction (n + k) fault := by
  induction bs generalizing n with
  | nil => cases h
  | cons b bs ih =>
    obtain ⟨type, htype⟩ := Option.isSome_iff_exists.mp (htyped 0 (by simp))
    unfold checkBodiesFrom at h
    rw [Nat.add_zero] at htype
    simp only [htype] at h
    cases hcheck : m.checkBody type b with
    | error fault =>
      simp only [hcheck] at h
      cases h
      exact ⟨0, b, type, fault, rfl, htype, hcheck, rfl⟩
    | ok u =>
      simp only [hcheck] at h
      obtain ⟨k, body, type', fault, hbody, htype', hfault, rfl⟩ := ih (n := n + 1) (by
        intro k hk
        rw [Nat.add_right_comm]
        exact htyped (k + 1) (by simpa using hk)) h
      rw [Nat.add_right_comm] at htype'
      exact ⟨k + 1, body, type', fault, hbody, htype', hfault, by rw [Nat.add_right_comm]; rfl⟩

/-- All functions that the module speaks of have a type. -/
structure Typed (m : Module) : Prop where
  limit : ∃ limit, m.indexSpace.limit? ExternKind.func = some limit ∧
    ∀ i, (m.funcType? i).isSome ↔ i < limit
  exports : ∀ e ∈ m.exports, e.kind = ExternKind.func → (m.funcType? e.index).isSome
  start : ∀ f ∈ m.start, (m.funcType? f).isSome
  bodies : ∀ k < m.bodies.length, ∃ t type, m.funcs[k]? = some t ∧ m.typeAt? t = some type ∧
    m.funcType? (UInt32.ofNat (m.importCount ExternKind.func + k)) = some type
  faults : ∀ f, m.checkBodies = .error f → ∃ k body type fault, m.bodies[k]? = some body ∧
    m.funcType? (UInt32.ofNat (m.importCount ExternKind.func + k)) = some type ∧
    m.checkBody type body = .error fault ∧
    f = .inFunction (m.importCount ExternKind.func + k) fault

theorem toNat_body_index {k : Nat} (hk : k < m.funcs.length) (hcount : m.numFuncs < UInt32.size) :
    (UInt32.ofNat (m.importCount ExternKind.func + k)).toNat =
      m.importCount ExternKind.func + k := by
  apply UInt32.toNat_ofNat_of_lt'
  unfold numFuncs at hcount
  omega

/-- The limit that was counted beforehand bounds the indices that can be counted down to a type. -/
theorem isSome_funcType?_iff_lt_limit
    (h : ∀ t ∈ m.importedFuncs ++ m.funcs, t.toNat < m.types.length)
    (hcount : m.numFuncs < UInt32.size) (i : UInt32) :
    (m.funcType? i).isSome ↔ i < m.indexSpace.funcs := by
  rw [isSome_funcType?_iff h, UInt32.lt_iff_toNat_lt, indexSpace, UInt32.toNat_ofNat_of_lt' hcount]

theorem typed_of_checkStructure (h : m.checkStructure = .ok ())
    (hcount : m.numFuncs < UInt32.size) : m.Typed := by
  have hbodies := length_bodies_of_checkStructure h
  have hnone := structureFault?_of_checkStructure h
  simp only [structureFault?, Option.or_eq_none_iff] at hnone
  obtain ⟨himports, hfuncs, hexports, hstart, -, -⟩ := hnone
  have htypes : ∀ t ∈ m.importedFuncs ++ m.funcs, t.toNat < m.types.length :=
    List.forall_mem_append.mpr
      ⟨importTypesFault?_eq_none_iff.mp himports, funcTypesFault?_eq_none_iff.mp hfuncs⟩
  have hlimit := isSome_funcType?_iff_lt_limit htypes hcount
  have hindex {k : Nat} (hk : k < m.bodies.length) :=
    toNat_body_index (hbodies ▸ hk) hcount
  refine ⟨⟨_, rfl, hlimit⟩, ?_, fun f hf => isSome_funcType?_of_start hstart hf, ?_, ?_⟩
  · intro e he hkind
    obtain ⟨limit, hsome, hlt⟩ := lt_limit_of_mem hexports he
    rw [hkind] at hsome
    cases hsome
    exact (hlimit e.index).mpr hlt
  · intro k hk
    have hk' : k < m.funcs.length := hbodies ▸ hk
    have ht := htypes _ (List.mem_append_right m.importedFuncs (List.getElem_mem hk'))
    refine ⟨_, _, List.getElem?_eq_getElem hk', List.getElem?_eq_getElem ht, ?_⟩
    rw [m.resolves_funcType?.defined _ (by rw [hindex hk]; exact Nat.le_add_right _ _), hindex hk,
      Nat.add_sub_cancel_left, List.getElem?_eq_getElem hk']
    exact List.getElem?_eq_getElem ht
  · intro f hf
    refine checkBodiesFrom_error (fun k hk => ?_) hf
    rw [isSome_funcType?_iff htypes, hindex hk]
    unfold numFuncs
    omega

/-- Counting an index down along the imports leads to the import of the kind that has its number,
whatever stands between these, and past them to the definitions. If the structure of the module is
sound and its functions can be counted in 32 bits, then the indices with a function type are those
below the limit for exports. So exported functions, the start function and the functions of the bodies
have types, and a check of the bodies fails only by what is in one of them, never for want of a
type. -/
theorem index_spaces_agree (m : Module) :
    m.Resolves ExternKind.func (fun i => m.typeAt? i.desc.typeIndex) m.funcs m.typeAt?
      m.funcType? ∧
    m.Resolves ExternKind.globalVar (fun i => i.desc.globalType?) m.globals (fun g => some g.type)
      m.globalType? ∧
    (m.checkStructure = .ok () → m.numFuncs < UInt32.size → m.Typed) :=
  ⟨m.resolves_funcType?, m.resolves_globalType?, typed_of_checkStructure⟩

/-- Two functions among imports of other kinds, before two that are defined; the second body is
ill typed. -/
theorem index_spaces_agree_mixed :
    let m : Module :=
      { types := [⟨[], []⟩, ⟨[.i32], [.i64]⟩]
        imports := [⟨"env", "memory", .memory none⟩, ⟨"env", "put", .func 1⟩,
          ⟨"env", "base", .globalVar (some ⟨.i32, false⟩)⟩,
          ⟨"env", "table", .other 1 (by decide)⟩, ⟨"env", "done", .func 0⟩]
        funcs := [1, 0], globals := [⟨⟨.i64, true⟩, [66, 0, 11]⟩]
        exports := [⟨"last", ExternKind.func, 3⟩], start := some 1
        bodies := [{ code := [66, 5, 11] }, { code := [66, 5, 11] }] }
    m.checkStructure = .ok () ∧ m.numFuncs < UInt32.size ∧
      (∃ i, Import.IsNth ExternKind.func m.imports 1 i ∧
        m.funcType? 1 = m.typeAt? i.desc.typeIndex) ∧
      m.funcType? 2 = some ⟨[.i32], [.i64]⟩ ∧ m.globalType? 1 = some ⟨.i64, true⟩ ∧
      m.Typed ∧
      m.checkBodies = .error (.inFunction 3 (.atInstr 1 ⟨Op.stop, .none⟩ (.leftover 1))) := by
  intro m
  obtain ⟨hfuncs, hglobals, htyped⟩ := index_spaces_agree m
  have hstructure : m.checkStructure = .ok () := rfl
  have hcount : m.numFuncs < UInt32.size := by decide
  exact ⟨hstructure, hcount, hfuncs.imported 1 (by decide), hfuncs.defined 2 (by decide),
    hglobals.defined 1 (by decide), htyped hstructure hcount, by decide +kernel⟩

end Module
end TapeWasm.Wasm
