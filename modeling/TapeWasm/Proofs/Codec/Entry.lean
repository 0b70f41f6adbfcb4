import TapeWasm.Proofs.Codec.Decoder
import TapeWasm.Wasm.Module.Decode

/-!
The entries of a module's sections and their bytes. For each kind of entry, `Encodable` says which
entries the format can hold; exactly these are given by the decoder, which reads them back from
their written form.
-/
namespace TapeWasm.Wasm

structure FuncType.Encodable (t : FuncType) : Prop where
  params : ∀ p ∈ t.params, p.isValid
  results : ∀ p ∈ t.results, p.isValid
  numParams : t.params.length < 2 ^ 32
  numResults : t.results.length < 2 ^ 32

/-- A description that says all there is to say about the import. -/
def ImportDesc.Encodable : ImportDesc → Prop
  | .func _ => True
  | .memory l => l.isSome
  | .globalVar g => ∃ t, g = some t ∧ t.value.isValid
  | .other _ _ => False

structure Import.Encodable (i : Import) : Prop where
  module : (Bytes.ofString i.module).length < 2 ^ 32
  name : (Bytes.ofString i.name).length < 2 ^ 32
  desc : i.desc.Encodable

/-- Constant expressions with their numbers in the fewest bytes. A number of 32 bits may have as
many bits as its bytes hold. -/
inductive ConstExpr : Bytes → Prop
  | stop : ConstExpr [Op.stop]
  | i32 {v : Int64} {e : Bytes} (h : (Varint.encodeS64 v).length ≤ Varint.byteLimit 32)
      (he : ConstExpr e) : ConstExpr (Op.i32Const :: (Varint.encodeS64 v ++ e))
  | i64 {v : Int64} {e : Bytes} (he : ConstExpr e) :
      ConstExpr (Op.i64Const :: (Varint.encodeS64 v ++ e))
  | globalVar {i : UInt32} {e : Bytes} (he : ConstExpr e) :
      ConstExpr (Op.globalGet :: (Varint.encodeU32 i ++ e))

structure Global.Encodable (g : Global) : Prop where
  type : g.type.value.isValid
  init : ConstExpr g.init

structure Export.Encodable (e : Export) : Prop where
  name : (Bytes.ofString e.name).length < 2 ^ 32
  kind : ¬ ExternKind.globalVar < e.kind

structure Body.Encodable (b : Body) : Prop where
  types : ∀ l ∈ b.locals, l.type.isValid
  count : b.localCount ≤ maxLocals
  ends : b.code.getLast? = some Op.stop
  size : (Encode.vector Encode.localRun b.locals ++ b.code).length < 2 ^ 32

structure DataSegment.Encodable (d : DataSegment) : Prop where
  offset : ConstExpr d.offset
  size : d.init.length < 2 ^ 32

structure CustomSection.Encodable (c : CustomSection) : Prop where
  name : (Bytes.ofString c.name).length < 2 ^ 32
  size : (Encode.name c.name ++ c.data).length < 2 ^ 32

namespace Decode

open Decoder

theorem reads_valueType {t : ValueType} (h : t.isValid) : Reads valueType [t.byte] t := by
  intro rest pos
  refine bind_ok_iff.mpr ⟨_, _, reads_byte t.byte rest pos, ?_⟩
  rw [if_pos h, pure_ok_iff]
  exact ⟨rfl, rfl⟩

theorem valueType_ok {r r' : Reader} {t : ValueType} (h : valueType r = .ok t r') :
    t.isValid ∧ [t.byte].length + r'.rest.length ≤ r.rest.length := by
  obtain ⟨b, r₁, hb, h⟩ := bind_ok_iff.mp h
  split at h
  · rename_i hv
    obtain ⟨rfl, rfl⟩ := pure_ok_iff.mp h
    exact ⟨hv, by rw [byte_ok hb]; simp; omega⟩
  · simp at h

theorem reads_valueTypes {ts : List ValueType} (h : ∀ t ∈ ts, t.isValid)
    (hlen : ts.length < 2 ^ 32) : Reads valueTypes (Encode.valueTypes ts) ts :=
  reads_vector hlen (by simp) fun t ht _ => reads_valueType (h t ht)

theorem valueTypes_ok {r r' : Reader} {ts : List ValueType} (h : valueTypes r = .ok ts r') :
    (∀ t ∈ ts, t.isValid) ∧ ts.length < 2 ^ 32 ∧
      (Encode.valueTypes ts).length + r'.rest.length ≤ r.rest.length :=
  vector_ok (fun _ _ _ _ ha => valueType_ok ha) h

theorem reads_funcType {t : FuncType} (h : t.Encodable) (i : Nat) :
    Reads (funcType i) (Encode.funcType t) t := by
  have hparams := reads_valueTypes h.params h.numParams
  have hresults := reads_valueTypes h.results h.numResults
  refine ((reads_byte funcTypeForm).within _).bind ?_
  rw [if_pos rfl]
  exact hparams.bind (hresults.map _)

theorem funcType_ok {i : Nat} {r r' : Reader} {t : FuncType} (h : funcType i r = .ok t r') :
    t.Encodable ∧ (Encode.funcType t).length + r'.rest.length ≤ r.rest.length := by
  obtain ⟨form, r₁, hf, h⟩ := bind_ok_iff.mp h
  split at h
  · obtain ⟨params, r₂, hp, h⟩ := bind_ok_iff.mp h
    obtain ⟨results, r₃, hr, h⟩ := bind_ok_iff.mp h
    obtain ⟨rfl, rfl⟩ := pure_ok_iff.mp h
    obtain ⟨hp, hpl, hpe⟩ := valueTypes_ok hp
    obtain ⟨hr, hrl, hre⟩ := valueTypes_ok hr
    refine ⟨⟨hp, hr, hpl, hrl⟩, ?_⟩
    rw [byte_ok (within_ok_iff.mp hf)]
    simp only [Encode.funcType, List.length_cons, List.length_append]
    omega
  · simp at h

theorem reads_limits (l : Limits) : Reads limits (Encode.limits l) l := by
  obtain ⟨min, max⟩ := l
  cases max with
  | none => exact (reads_byte 0).bind ((reads_u32 min).map _)
  | some max => exact (reads_byte 1).bind ((reads_u32 min).bind ((reads_u32 max).map _))

theorem limits_ok {r r' : Reader} {l : Limits} (h : limits r = .ok l r') :
    (Encode.limits l).length + r'.rest.length ≤ r.rest.length := by
  obtain ⟨flags, r₁, hf, h⟩ := bind_ok_iff.mp h
  have hf := byte_ok hf
  split at h
  · obtain ⟨min, r₂, hm, h⟩ := bind_ok_iff.mp h
    obtain ⟨rfl, rfl⟩ := pure_ok_iff.mp h
    have hm := spends_u32 _ _ _ hm
    simp only [Encode.limits, hf, List.length_cons]
    omega
  · split at h
    · obtain ⟨min, r₂, hm, h⟩ := bind_ok_iff.mp h
      obtain ⟨max, r₃, hx, h⟩ := bind_ok_iff.mp h
      obtain ⟨rfl, rfl⟩ := pure_ok_iff.mp h
      have hm := spends_u32 _ _ _ hm
      have hx := spends_u32 _ _ _ hx
      simp only [Encode.limits, hf, List.length_cons, List.length_append]
      omega
    · simp at h

theorem limits_ne_nil (l : Limits) : Encode.limits l ≠ [] := by
  rw [Encode.limits]
  split <;> simp

theorem reads_globalType {g : GlobalType} (h : g.value.isValid) :
    Reads globalType (Encode.globalType g) g := by
  obtain ⟨t, isMutable⟩ := g
  refine Reads.bind (c := [if isMutable then 1 else 0]) (reads_byte t.byte) ?_
  rw [if_pos h]
  cases isMutable with
  | false => exact Reads.bind (c := []) (reads_byte 0) (Reads.pure _)
  | true => exact Reads.bind (c := []) (reads_byte 1) (Reads.pure _)

theorem globalType_ok {r r' : Reader} {g : GlobalType} (h : globalType r = .ok g r') :
    g.value.isValid ∧ (Encode.globalType g).length + r'.rest.length ≤ r.rest.length := by
  obtain ⟨b, r₁, hb, h⟩ := bind_ok_iff.mp h
  have hb := byte_ok hb
  split at h
  · rename_i hv
    obtain ⟨flag, r₂, hf, h⟩ := bind_ok_iff.mp h
    have hf := byte_ok hf
    have hlen : 2 + r₂.rest.length ≤ r.rest.length := by rw [hb, hf]; simp; omega
    split at h
    · obtain ⟨rfl, rfl⟩ := pure_ok_iff.mp h
      exact ⟨hv, hlen⟩
    · split at h
      · obtain ⟨rfl, rfl⟩ := pure_ok_iff.mp h
        exact ⟨hv, hlen⟩
      · simp at h
  · simp at h

theorem reads_importDesc {d : ImportDesc} (h : d.Encodable) :
    Reads importDesc (d.kind :: Encode.importDesc d) d := by
  cases d with
  | func t => exact (reads_byte ExternKind.func).bind ((reads_u32 t).map _)
  | memory l =>
    obtain ⟨l, rfl⟩ := Option.isSome_iff_exists.mp h
    exact (reads_byte ExternKind.memory).bind ((reads_limits l).map _)
  | globalVar g =>
    obtain ⟨g, rfl, hg⟩ := h
    exact (reads_byte ExternKind.globalVar).bind ((reads_globalType hg).map _)
  | other => exact h.elim

theorem importDesc_ok {r r' : Reader} {d : ImportDesc} (h : importDesc r = .ok d r') :
    d.Encodable ∧ (d.kind :: Encode.importDesc d).length + r'.rest.length ≤ r.rest.length := by
  obtain ⟨kind, r₁, hk, h⟩ := bind_ok_iff.mp h
  have hk := byte_ok hk
  rw [hk]
  split at h
  · obtain ⟨t, r₂, ht, h⟩ := bind_ok_iff.mp h
    obtain ⟨rfl, rfl⟩ := pure_ok_iff.mp h
    have ht := spends_u32 _ _ _ ht
    exact ⟨trivial, by simp only [Encode.importDesc, List.length_cons]; omega⟩
  · obtain ⟨l, r₂, hl, h⟩ := bind_ok_iff.mp h
    obtain ⟨rfl, rfl⟩ := pure_ok_iff.mp h
    have hl := limits_ok hl
    refine ⟨rfl, ?_⟩
    simp only [Encode.importDesc, Option.map_some, Option.getD_some, List.length_cons]
    omega
  · obtain ⟨g, r₂, hg, h⟩ := bind_ok_iff.mp h
    obtain ⟨rfl, rfl⟩ := pure_ok_iff.mp h
    obtain ⟨hv, hg⟩ := globalType_ok hg
    refine ⟨⟨g, rfl, hv⟩, ?_⟩
    simp only [Encode.importDesc, Option.map_some, Option.getD_some, List.length_cons]
    omega
  · simp at h

theorem reads_importEntry {i : Import} (h : i.Encodable) :
    Reads importEntry (Encode.importEntry i) i := by
  rw [Encode.importEntry, List.append_assoc]
  exact (reads_name h.module).bind ((reads_name h.name).bind ((reads_importDesc h.desc).map _))

theorem importEntry_ok {r r' : Reader} {i : Import} (h : importEntry r = .ok i r') :
    i.Encodable ∧ (Encode.importEntry i).length + r'.rest.length ≤ r.rest.length := by
  obtain ⟨module, r₁, hm, h⟩ := bind_ok_iff.mp h
  obtain ⟨name, r₂, hn, h⟩ := bind_ok_iff.mp h
  obtain ⟨desc, r₃, hd, h⟩ := bind_ok_iff.mp h
  obtain ⟨rfl, rfl⟩ := pure_ok_iff.mp h
  obtain ⟨hm, hml⟩ := name_ok hm
  obtain ⟨hn, hnl⟩ := name_ok hn
  obtain ⟨hd, hdl⟩ := importDesc_ok hd
  refine ⟨⟨hm, hn, hd⟩, ?_⟩
  simp only [Encode.importEntry, List.length_append]
  omega

theorem reads_exportEntry {e : Export} (h : e.Encodable) :
    Reads exportEntry (Encode.exportEntry e) e := by
  refine (reads_name h.name).bind (Reads.bind (reads_byte e.kind) ?_)
  rw [if_neg h.kind]
  exact (reads_u32 e.index).map _

theorem exportEntry_ok {r r' : Reader} {e : Export} (h : exportEntry r = .ok e r') :
    e.Encodable ∧ (Encode.exportEntry e).length + r'.rest.length ≤ r.rest.length := by
  obtain ⟨name, r₁, hn, h⟩ := bind_ok_iff.mp h
  obtain ⟨kind, r₂, hk, h⟩ := bind_ok_iff.mp h
  obtain ⟨hn, hnl⟩ := name_ok hn
  have hk := byte_ok hk
  split at h
  · simp at h
  · rename_i hkind
    obtain ⟨index, r₃, hi, h⟩ := bind_ok_iff.mp h
    obtain ⟨rfl, rfl⟩ := pure_ok_iff.mp h
    have hi := spends_u32 _ _ _ hi
    refine ⟨⟨hn, hkind⟩, ?_⟩
    rw [hk] at hnl
    simp only [Encode.exportEntry, List.length_append, List.length_cons] at hnl ⊢
    omega

/-! Constant expressions are kept as bytes, each number in its fewest. -/

theorem constExprFrom_reads {e : Bytes} (h : ConstExpr e) (fuel : Nat) (acc : Bytes)
    (hfuel : e.length ≤ fuel) : Reads (constExprFrom fuel acc) e (acc.reverse ++ e) := by
  induction h generalizing fuel acc with
  | stop =>
    obtain ⟨n, rfl⟩ : ∃ n, fuel = n + 1 := ⟨fuel - 1, by simp at hfuel; omega⟩
    have hpure : Reads (pure (Op.stop :: acc).reverse) [] (acc.reverse ++ [Op.stop]) := by
      simpa using Reads.pure (Op.stop :: acc).reverse
    exact Reads.bind (c := []) (reads_byte Op.stop) hpure
  | @i32 v e hv he ih =>
    obtain ⟨n, rfl⟩ : ∃ n, fuel = n + 1 := ⟨fuel - 1, by simp at hfuel; omega⟩
    have hrest := ih n ((Varint.encodeS64 v).reverse ++ Op.i32Const :: acc)
      (by simp at hfuel; omega)
    simp only [List.reverse_append, List.reverse_cons, List.reverse_reverse, List.append_assoc,
      List.singleton_append] at hrest
    exact Reads.bind (reads_byte Op.i32Const) ((reads_signed hv).bind hrest)
  | @i64 v e he ih =>
    obtain ⟨n, rfl⟩ : ∃ n, fuel = n + 1 := ⟨fuel - 1, by simp at hfuel; omega⟩
    have hrest := ih n ((Varint.encodeS64 v).reverse ++ Op.i64Const :: acc)
      (by simp at hfuel; omega)
    simp only [List.reverse_append, List.reverse_cons, List.reverse_reverse, List.append_assoc,
      List.singleton_append] at hrest
    have hv : (Varint.encodeS64 v).length ≤ Varint.byteLimit 64 := Varint.length_encodeS64_le v
    exact Reads.bind (reads_byte Op.i64Const) ((reads_signed hv).bind hrest)
  | @globalVar i e he ih =>
    obtain ⟨n, rfl⟩ : ∃ n, fuel = n + 1 := ⟨fuel - 1, by simp at hfuel; omega⟩
    have hrest := ih n ((Varint.encodeU32 i).reverse ++ Op.globalGet :: acc)
      (by simp at hfuel; omega)
    simp only [List.reverse_append, List.reverse_cons, List.reverse_reverse, List.append_assoc,
      List.singleton_append] at hrest
    exact Reads.bind (reads_byte Op.globalGet) ((reads_u32 i).bind hrest)

theorem reads_constExpr {e : Bytes} (h : ConstExpr e) : Reads constExpr e e := by
  intro rest pos
  refine bind_ok_iff.mpr ⟨_, _, rfl, ?_⟩
  rw [constExprFrom_reads h _ [] (by simp; omega)]
  simp

theorem constExprFrom_ok {fuel : Nat} {acc b : Bytes} {r r' : Reader}
    (h : constExprFrom fuel acc r = .ok b r') :
    ∃ e, b = acc.reverse ++ e ∧ ConstExpr e ∧ e.length + r'.rest.length ≤ r.rest.length := by
  induction fuel generalizing acc r with
  | zero => simp [constExprFrom] at h
  | succ fuel ih =>
    rw [constExprFrom] at h
    obtain ⟨op, r₁, hop, h⟩ := bind_ok_iff.mp h
    have hop := byte_ok hop
    rw [hop]
    split at h
    · obtain ⟨rfl, rfl⟩ := pure_ok_iff.mp h
      exact ⟨[Op.stop], by simp, .stop, by simp; omega⟩
    · obtain ⟨v, r₂, hv, h⟩ := bind_ok_iff.mp h
      obtain ⟨hle, hlim⟩ := signed_ok hv
      obtain ⟨e, rfl, he, hlen⟩ := ih h
      refine ⟨Op.i32Const :: (Varint.encodeS64 v ++ e), by simp, .i32 hlim he, ?_⟩
      simp only [List.length_cons, List.length_append]
      omega
    · obtain ⟨v, r₂, hv, h⟩ := bind_ok_iff.mp h
      obtain ⟨hle, -⟩ := signed_ok hv
      obtain ⟨e, rfl, he, hlen⟩ := ih h
      refine ⟨Op.i64Const :: (Varint.encodeS64 v ++ e), by simp, .i64 he, ?_⟩
      simp only [List.length_cons, List.length_append]
      omega
    · obtain ⟨i, r₂, hi, h⟩ := bind_ok_iff.mp h
      have hle := spends_u32 _ _ _ hi
      obtain ⟨e, rfl, he, hlen⟩ := ih h
      refine ⟨Op.globalGet :: (Varint.encodeU32 i ++ e), by simp, .globalVar he, ?_⟩
      simp only [List.length_cons, List.length_append]
      omega
    · simp at h

theorem constExpr_ok {e : Bytes} {r r' : Reader} (h : constExpr r = .ok e r') :
    ConstExpr e ∧ e.length + r'.rest.length ≤ r.rest.length := by
  obtain ⟨left, r₁, hl, h⟩ := bind_ok_iff.mp h
  obtain ⟨-, rfl⟩ : r.rest.length = left ∧ r = r₁ := by simpa [remaining] using hl
  obtain ⟨_, rfl, he, hlen⟩ := constExprFrom_ok h
  exact ⟨he, hlen⟩

theorem reads_globalVar {g : Global} (h : g.Encodable) :
    Reads globalVar (Encode.globalVar g) g :=
  (reads_globalType h.type).bind ((reads_constExpr h.init).map _)

theorem globalVar_ok {r r' : Reader} {g : Global} (h : globalVar r = .ok g r') :
    g.Encodable ∧ (Encode.globalVar g).length + r'.rest.length ≤ r.rest.length := by
  obtain ⟨type, r₁, ht, h⟩ := bind_ok_iff.mp h
  obtain ⟨init, r₂, hi, h⟩ := bind_ok_iff.mp h
  obtain ⟨rfl, rfl⟩ := pure_ok_iff.mp h
  obtain ⟨ht, htl⟩ := globalType_ok ht
  obtain ⟨hi, hil⟩ := constExpr_ok hi
  refine ⟨⟨ht, hi⟩, ?_⟩
  simp only [Encode.globalVar, List.length_append]
  omega

/-! The local variables of a body, with their number counted as they are read. -/

theorem localRun_ne_nil (l : LocalRun) : Encode.localRun l ≠ [] := by simp [Encode.localRun]

private theorem le_foldl_count (ls : List LocalRun) (n : Nat) :
    n ≤ ls.foldl (fun n l => n + l.count.toNat) n := by
  induction ls generalizing n with
  | nil => exact le_refl n
  | cons l ls ih => exact (Nat.le_add_right _ _).trans (ih _)

theorem localRunsFrom_reads {ls : List LocalRun} (h : ∀ l ∈ ls, l.type.isValid) (total : Nat)
    (acc : List LocalRun) (hmax : ls.foldl (fun n l => n + l.count.toNat) total ≤ maxLocals) :
    Reads (localRunsFrom ls.length total acc) (ls.flatMap Encode.localRun) (acc.reverse ++ ls) := by
  induction ls generalizing total acc with
  | nil => simpa [localRunsFrom] using Reads.pure acc.reverse
  | cons l ls ih =>
    have hrest := ih (fun l hl => h l (by simp [hl])) (total + l.count.toNat) (l :: acc) hmax
    simp only [List.reverse_cons, List.append_assoc, List.singleton_append] at hrest
    have hle : ¬ maxLocals < total + l.count.toNat := by
      have := le_foldl_count ls (total + l.count.toNat)
      simp only [List.foldl_cons] at hmax
      omega
    rw [List.flatMap_cons, Encode.localRun, List.append_assoc]
    refine (reads_u32 l.count).bind (Reads.bind (reads_byte l.type.byte) ?_)
    rw [if_pos (h l (by simp)), if_neg hle]
    exact hrest

theorem localRunsFrom_ok {count total : Nat} {acc ls : List LocalRun} {r r' : Reader}
    (h : localRunsFrom count total acc r = .ok ls r') (htotal : total ≤ maxLocals) :
    ∃ ks, ls = acc.reverse ++ ks ∧ ks.length = count ∧ (∀ l ∈ ks, l.type.isValid) ∧
      ks.foldl (fun n l => n + l.count.toNat) total ≤ maxLocals ∧
      (ks.flatMap Encode.localRun).length + r'.rest.length ≤ r.rest.length := by
  induction count generalizing total acc r with
  | zero =>
    obtain ⟨rfl, rfl⟩ := pure_ok_iff.mp h
    exact ⟨[], by simpa using htotal⟩
  | succ count ih =>
    obtain ⟨n, r₁, hn, h⟩ := bind_ok_iff.mp h
    obtain ⟨t, r₂, ht, h⟩ := bind_ok_iff.mp h
    have hn := spends_u32 _ _ _ hn
    have ht := byte_ok ht
    split at h
    · rename_i hv
      split at h
      · simp at h
      · rename_i hmax
        obtain ⟨ks, rfl, hlen, hks, hsum, hle⟩ := ih h (Nat.not_lt.mp hmax)
        refine ⟨⟨n, ⟨t⟩⟩ :: ks, by simp, by simp [hlen], by simpa using ⟨hv, hks⟩, hsum, ?_⟩
        rw [ht] at hn
        simp only [List.flatMap_cons, Encode.localRun, List.length_append, List.length_cons,
          List.length_nil] at hn ⊢
        omega
    · simp at h

theorem reads_localRuns {ls : List LocalRun} (hlen : ls.length < 2 ^ 32)
    (h : ∀ l ∈ ls, l.type.isValid)
    (hmax : ls.foldl (fun n l => n + l.count.toNat) 0 ≤ maxLocals) :
    Reads localRuns (Encode.vector Encode.localRun ls) ls := by
  have hruns (n : UInt32) (hn : n.toNat = ls.length) :
      Reads (localRunsFrom n.toNat 0 []) (ls.flatMap Encode.localRun ++ []) ls := by
    rw [hn, List.append_nil]
    exact localRunsFrom_reads h 0 [] hmax
  have hread := reads_counted (fun n left => .vectorLength n.toNat left) [] hlen
    (fun l _ => localRun_ne_nil l) hruns
  rwa [List.append_nil] at hread

theorem localRuns_ok {ls : List LocalRun} {r r' : Reader} (h : localRuns r = .ok ls r') :
    (∀ l ∈ ls, l.type.isValid) ∧ ls.foldl (fun n l => n + l.count.toNat) 0 ≤ maxLocals ∧
      (Encode.vector Encode.localRun ls).length + r'.rest.length ≤ r.rest.length := by
  obtain ⟨n, r₁, h, hn⟩ := counted_ok (fun n left => .vectorLength n.toNat left) h
  obtain ⟨_, rfl, hlen, hv, hsum, hle⟩ := localRunsFrom_ok h (Nat.zero_le _)
  have hcount : UInt32.ofNat ls.length = n := by rw [hlen]; simp
  refine ⟨hv, hsum, ?_⟩
  simp only [Encode.vector, Encode.length, hcount, List.length_append]
  omega

theorem numRuns_lt {b : Body} (h : b.Encodable) : b.locals.length < 2 ^ 32 := by
  have hle := length_le_flatMap fun (l : LocalRun) (_ : l ∈ b.locals) => localRun_ne_nil l
  have hsize := h.size
  simp only [Encode.vector, List.length_append] at hsize
  omega

theorem bodyContents_eq {b : Body} (h : b.Encodable) (pos : Nat) :
    bodyContents ⟨Encode.vector Encode.localRun b.locals ++ b.code, pos⟩ = .ok b
      ⟨[], pos + (Encode.vector Encode.localRun b.locals ++ b.code).length⟩ := by
  have hlocals := (reads_localRuns (numRuns_lt h) h.types h.count).within .locals
  refine bind_ok_iff.mpr ⟨_, _, hlocals b.code pos, bind_ok_iff.mpr ⟨_, _, rfl, ?_⟩⟩
  rw [if_pos h.ends, pure_ok_iff]
  simp [Nat.add_assoc]

theorem reads_body {b : Body} (h : b.Encodable) (i : Nat) :
    Reads (body i) (Encode.body b) b := by
  have hcount : (UInt32.ofNat
      (Encode.vector Encode.localRun b.locals ++ b.code).length).toNat =
      (Encode.vector Encode.localRun b.locals ++ b.code).length := by
    simpa using Nat.mod_eq_of_lt h.size
  refine (reads_u32 _).bind (Reads.within ?_ _)
  rw [hcount]
  intro rest pos
  refine bind_ok_iff.mpr ⟨_, _, reads_bytes _ rest pos, ?_⟩
  rw [onBytes, bodyContents_eq h]

theorem bodyContents_ok {r r' : Reader} {b : Body} (h : bodyContents r = .ok b r') :
    (∀ l ∈ b.locals, l.type.isValid) ∧ b.localCount ≤ maxLocals ∧
      b.code.getLast? = some Op.stop ∧
      (Encode.vector Encode.localRun b.locals ++ b.code).length ≤ r.rest.length := by
  obtain ⟨locals, r₁, hl, h⟩ := bind_ok_iff.mp h
  obtain ⟨code, r₂, hc, h⟩ := bind_ok_iff.mp h
  obtain ⟨rfl, -⟩ : r₁.rest = code ∧ _ = r₂ := by simpa [all] using hc
  obtain ⟨hv, hsum, hle⟩ := localRuns_ok (within_ok_iff.mp hl)
  split at h
  · rename_i hend
    obtain ⟨rfl, -⟩ := pure_ok_iff.mp h
    exact ⟨hv, hsum, hend, by simpa using hle⟩
  · simp at h

/-- Lengths of larger numbers are not shorter. -/
theorem length_length_le_iff {n : Nat} (hn : n < 2 ^ 32) (k : Nat) :
    (Encode.length n).length ≤ k + 1 ↔ n < 128 ^ (k + 1) := by
  have hnat : (UInt32.ofNat n).toNat = n := by simpa using Nat.mod_eq_of_lt hn
  rw [Encode.length, Varint.encodeU32_eq, hnat, Varint.length_encodeNat_le_iff]

theorem exists_length_length (n : Nat) : ∃ k, (Encode.length n).length = k + 1 := by
  have hpos := List.length_pos_iff.mpr (Varint.encodeU32_ne_nil (UInt32.ofNat n))
  exact ⟨(Encode.length n).length - 1, by rw [Encode.length]; omega⟩

theorem length_length_le {n k : Nat} (hk : k < 2 ^ 32) (h : n ≤ k) :
    (Encode.length n).length ≤ (Encode.length k).length := by
  obtain ⟨j, hj⟩ := exists_length_length k
  have hkj := (length_length_le_iff hk j).mp hj.le
  rw [hj]
  exact (length_length_le_iff (h.trans_lt hk) j).mpr (h.trans_lt hkj)

/-- Twice a number takes at most one group of bits more. -/
theorem length_length_double {n k : Nat} (hk : k < 2 ^ 31) (h : n ≤ 2 * k) :
    (Encode.length n).length ≤ 2 * (Encode.length k).length := by
  obtain ⟨j, hj⟩ := exists_length_length k
  have hkj := (length_length_le_iff (by omega) j).mp hj.le
  have hnj : n < 128 ^ (j + 1 + 1) := by
    rw [Nat.pow_succ]
    omega
  have hle := (length_length_le_iff (by omega) (j + 1)).mpr hnj
  omega

theorem body_ok {i : Nat} {r r' : Reader} {b : Body} (h : body i r = .ok b r') :
    b.Encodable ∧ (Encode.body b).length + r'.rest.length ≤ r.rest.length := by
  obtain ⟨size, r₁, hs, h⟩ := bind_ok_iff.mp h
  obtain ⟨raw, r₂, hraw, h⟩ := bind_ok_iff.mp (within_ok_iff.mp h)
  have hs := spends_u32 _ _ _ hs
  obtain ⟨hrest, hlen⟩ := bytes_ok hraw
  unfold onBytes at h
  split at h
  · rename_i b' r₃ hb
    obtain ⟨rfl, rfl⟩ : b' = b ∧ r₂ = r' := by simpa using h
    obtain ⟨hv, hsum, hend, hle⟩ := bodyContents_ok hb
    rw [hlen] at hle
    refine ⟨⟨hv, hsum, hend, hle.trans_lt size.toNat_lt⟩, ?_⟩
    have hprefix := length_length_le size.toNat_lt hle
    rw [Encode.length, Encode.length, UInt32.ofNat_toNat] at hprefix
    rw [hrest, List.length_append, hlen] at hs
    simp only [Encode.body, Encode.sized, Encode.length, List.length_append] at hprefix hle ⊢
    omega
  · simp at h

theorem reads_dataSegment {d : DataSegment} (h : d.Encodable) (i : Nat) :
    Reads (dataSegment i) (Encode.dataSegment d) d := by
  have hcount : (UInt32.ofNat d.init.length).toNat = d.init.length := by
    simpa using Nat.mod_eq_of_lt h.size
  rw [Encode.dataSegment, List.append_assoc]
  refine (reads_u32 0).bind ?_
  rw [if_pos rfl]
  refine (reads_constExpr h.offset).bind ((reads_u32 _).bind ?_)
  rw [hcount]
  exact (reads_bytes d.init).map _

theorem dataSegment_ok {i : Nat} {r r' : Reader} {d : DataSegment}
    (h : dataSegment i r = .ok d r') :
    d.Encodable ∧ (Encode.dataSegment d).length + r'.rest.length ≤ r.rest.length := by
  obtain ⟨flags, r₁, hf, h⟩ := bind_ok_iff.mp h
  have hf := spends_u32 _ _ _ hf
  split at h
  · rename_i hflags
    obtain ⟨offset, r₂, ho, h⟩ := bind_ok_iff.mp h
    obtain ⟨size, r₃, hs, h⟩ := bind_ok_iff.mp h
    obtain ⟨init, r₄, hi, h⟩ := bind_ok_iff.mp h
    obtain ⟨rfl, rfl⟩ := pure_ok_iff.mp h
    obtain ⟨ho, hol⟩ := constExpr_ok ho
    have hs := spends_u32 _ _ _ hs
    obtain ⟨hrest, hlen⟩ := bytes_ok hi
    have hcount : UInt32.ofNat init.length = size := by rw [hlen]; simp
    rw [hflags] at hf
    refine ⟨⟨ho, by rw [hlen]; exact size.toNat_lt⟩, ?_⟩
    rw [hrest, List.length_append] at hs
    have hzero : UInt32.ofNat 0 = 0 := rfl
    simp only [Encode.dataSegment, Encode.sized, Encode.length, hcount, hzero, List.length_append]
    omega
  · simp at h

theorem custom_eq {c : CustomSection} (h : c.Encodable) (pos : Nat) :
    custom ⟨Encode.name c.name ++ c.data, pos⟩ = .ok c
      ⟨[], pos + (Encode.name c.name ++ c.data).length⟩ := by
  refine bind_ok_iff.mpr ⟨_, _, reads_name h.name c.data pos, bind_ok_iff.mpr ⟨_, _, rfl, ?_⟩⟩
  rw [pure_ok_iff]
  simp [Nat.add_assoc]

theorem custom_ok {r r' : Reader} {c : CustomSection} (h : custom r = .ok c r')
    (hr : r.rest.length < 2 ^ 32) :
    c.Encodable ∧ (Encode.name c.name ++ c.data).length ≤ r.rest.length := by
  obtain ⟨name, r₁, hn, h⟩ := bind_ok_iff.mp h
  obtain ⟨data, r₂, hd, h⟩ := bind_ok_iff.mp h
  obtain ⟨rfl, -⟩ := pure_ok_iff.mp h
  obtain ⟨rfl, -⟩ : r₁.rest = data ∧ _ = r₂ := by simpa [all] using hd
  obtain ⟨hname, hle⟩ := name_ok hn
  have hsize : (Encode.name name ++ r₁.rest).length ≤ r.rest.length := by simpa using hle
  exact ⟨⟨hname, hsize.trans_lt hr⟩, hsize⟩

end Decode
end TapeWasm.Wasm
