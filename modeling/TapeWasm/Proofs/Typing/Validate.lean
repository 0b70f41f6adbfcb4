import TapeWasm.Wasm.Validate
import TapeWasm.Proofs.Codec.Instr
import TapeWasm.Proofs.Codec.Module
import TapeWasm.Proofs.Typing.Nesting

/-!
Validation of encoded modules. What it accepts does not change when bodies are replaced with others
that are accepted wherever the first ones are.
-/
namespace TapeWasm.Wasm

/-- Accepted code ends with the end of its outermost block. -/
theorem Scope.Checks.getLast?_eq_stop {s : Scope} {code : List Instr} {c : Checker}
    {operands : List ValueType} (h : s.Checks code c ⟨operands, []⟩)
    (hw : ∀ i ∈ code, i.WellShaped) (hc : c.Stacked) (hne : c.frames ≠ []) :
    code.getLast? = some ⟨Op.stop, .none⟩ := by
  obtain rfl | ⟨front, i, rfl⟩ := code.eq_nil_or_concat
  · obtain rfl : c = _ := h
    exact absurd rfl hne
  rw [List.concat_eq_append] at h hw ⊢
  obtain ⟨d, hfront, hd, e, hi, rfl⟩ := Scope.checks_append.mp h
  have hshape : i.WellShaped := hw i (by simp)
  have hstacked := hfront.stacked (fun j hj => hw j (List.mem_append_left _ hj)) hc
  have hstop : i.op = Op.stop := by
    generalize he : (⟨operands, []⟩ : Checker) = e at hi
    cases hstacked with
    | nil => exact absurd rfl hd
    | cons top _ hg =>
      cases Scope.step_shape hshape hg ⟨top, rfl⟩ hi with
      | opens => cases he
      | closes hstop => exact hstop
      | stays => cases he
  obtain ⟨op, imm⟩ := i
  obtain rfl : op = Op.stop := hstop
  rw [Instr.imm_of_bare rfl hshape, List.getLast?_concat]

theorem Scope.getLast?_of_checkCode {s : Scope} {code : List Instr}
    (hw : ∀ i ∈ code, i.WellShaped) (h : s.checkCode code = .ok ()) :
    code.getLast? = some ⟨Op.stop, .none⟩ := by
  obtain ⟨operands, hchecks⟩ := checkCode_eq_ok_iff.mp h
  exact hchecks.getLast?_eq_stop hw (.enter _) (List.cons_ne_nil _ _)

theorem Instr.getLast?_encodeAll {code : List Instr} (h : code.getLast? = some ⟨Op.stop, .none⟩) :
    (encodeAll code).getLast? = some Op.stop := by
  obtain ⟨front, rfl⟩ := List.getLast?_eq_some_iff.mp h
  rw [encodeAll_append]
  exact List.getLast?_concat

namespace Module

theorem validateBytes_eq_ok_iff {b : Bytes} :
    validateBytes b = .ok () ↔
      ∃ m, decode b = .ok m ∧ m.checkStructure = .ok () ∧ m.checkBodies = .ok () := by
  unfold validateBytes decodeChecked
  cases decode b with
  | error f => simp
  | ok m =>
    cases hs : m.checkStructure with
    | error f => simp [hs]
    | ok u => cases hb : m.checkBodies <;> simp [hs, hb]

theorem validateBytes_encode {m : Module} (h : m.Encodable) :
    validateBytes m.encode = .ok () ↔ m.checkStructure = .ok () ∧ m.checkBodies = .ok () := by
  rw [validateBytes_eq_ok_iff, decode_encode h]
  simp

section Bodies

variable {m : Module} {bodies : List Body}

theorem checkStructure_bodies (h : bodies.length = m.bodies.length) :
    { m with bodies }.checkStructure = m.checkStructure := by
  have hexports (es : List Export) (n : Nat) (seen : List String) :
      { m with bodies }.exportsFault? es n seen = m.exportsFault? es n seen := by
    induction es generalizing n seen with
    | nil => rfl
    | cons e es ih =>
      simp only [exportsFault?, ih]
      rfl
  have hcount : { m with bodies }.bodyCountFault? = m.bodyCountFault? := by
    simp only [bodyCountFault?, h]
  unfold checkStructure structureFault?
  rw [hexports, hcount]
  rfl

theorem stepsFrom_bodies (locals results : List ValueType) (code : List Instr) (n : Nat)
    (c : Checker) :
    Scope.stepsFrom ⟨{ m with bodies }, locals, results⟩ code n c =
      Scope.stepsFrom ⟨m, locals, results⟩ code n c := by
  have hstep (i : Instr) (c : Checker) :
      Scope.step ⟨{ m with bodies }, locals, results⟩ i c =
        Scope.step ⟨m, locals, results⟩ i c := rfl
  induction code generalizing n c with
  | nil => rfl
  | cons i is ih => simp only [Scope.stepsFrom, hstep, ih]

theorem checkBody_bodies (type : FuncType) (b : Body) :
    { m with bodies }.checkBody type b = m.checkBody type b := by
  simp only [checkBody, Scope.checkCode, stepsFrom_bodies]

theorem exists_checkBody_of_mem {bs : List Body} {n : Nat} (h : m.checkBodiesFrom bs n = .ok ())
    {b : Body} (hb : b ∈ bs) : ∃ type, m.checkBody type b = .ok () := by
  induction bs generalizing n with
  | nil => cases hb
  | cons b' bs ih =>
    unfold checkBodiesFrom at h
    split at h
    · cases h
    · rename_i type _
      split at h
      · rename_i hcheck
        obtain rfl | hb := List.mem_cons.mp hb
        · exact ⟨type, hcheck⟩
        · exact ih h hb
      · cases h

/-- Bodies do not see each other, so that they can be replaced one by one. -/
theorem checkBodiesFrom_forall₂ {bs bs' : List Body} {n : Nat}
    (h : List.Forall₂ (fun b b' => ∀ type, m.checkBody type b = .ok () →
      m.checkBody type b' = .ok ()) bs bs')
    (hbs : m.checkBodiesFrom bs n = .ok ()) :
    { m with bodies }.checkBodiesFrom bs' n = .ok () := by
  induction h generalizing n with
  | nil => rfl
  | cons hb _ ih =>
    unfold checkBodiesFrom at hbs ⊢
    split at hbs
    · cases hbs
    · rename_i type htype
      split at hbs
      · rename_i hcheck
        have hfunc : { m with bodies }.funcType? (UInt32.ofNat n) = some type := htype
        rw [hfunc]
        simp only [checkBody_bodies, hb type hcheck]
        exact ih hbs
      · cases hbs

end Bodies

end Module
end TapeWasm.Wasm
