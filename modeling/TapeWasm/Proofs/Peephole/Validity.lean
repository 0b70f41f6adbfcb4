import Mathlib.Data.List.Forall2
import TapeWasm.Optimizer
import TapeWasm.Proofs.Peephole.Size
import TapeWasm.Proofs.Peephole.Typing
import TapeWasm.Proofs.Typing.Validate

/-!
Condensing keeps modules valid. Every body stays accepted, and as no body grows to more than twice
its size, the module can still be written down; nothing but code changes.
-/
namespace TapeWasm.Peephole

open Wasm

/-- The code of `b'` is that of `b` condensed, and the two declare the same variables. -/
structure Condensed (b b' : Body) : Prop where
  locals : b'.locals = b.locals
  code : ∃ code, Instr.decodeAll b.code = .ok code ∧ Instr.decodeAll b'.code = .ok (condense code)

section Code

variable {bytes : Bytes} {code : List Instr}

theorem wellShaped_of_decodeAll (h : Instr.decodeAll bytes = .ok code) :
    ∀ i ∈ code, i.WellShaped :=
  fun i hi => ((Instr.decodeAll_ok h).1 i hi).wellShaped

theorem decodeAll_condense (h : Instr.decodeAll bytes = .ok code) :
    Instr.decodeAll (Instr.encodeAll (condense code)) = .ok (condense code) := by
  have hreduces : Reduces _ _ := reduces_condense (wellShaped_of_decodeAll h)
  exact Instr.decodeAll_encodeAll
    (hreduces.forall_mem (fun _ hi => hi) (Instr.decodeAll_ok h).1)

theorem checkCode_condense {s : Scope} (hw : ∀ i ∈ code, i.WellShaped)
    (h : s.checkCode code = .ok ()) : s.checkCode (condense code) = .ok () := by
  obtain ⟨operands, hchecks⟩ := Scope.checkCode_eq_ok_iff.mp h
  have hreduces : Reduces _ _ := reduces_condense hw
  exact Scope.checkCode_eq_ok_iff.mpr ⟨operands, hreduces.checks (.enter _) hw hchecks⟩

theorem length_condense_le (h : Instr.decodeAll bytes = .ok code) :
    (Instr.encodeAll (condense code)).length ≤ 2 * bytes.length :=
  calc (Instr.encodeAll (condense code)).length
      ≤ 2 * (Instr.encodeAll code).length :=
        length_encodeAll_condense (wellShaped_of_decodeAll h)
    _ ≤ 2 * bytes.length := Nat.mul_le_mul_left 2 (Instr.decodeAll_ok h).2

end Code

theorem Condensed.checkBody {b b' : Body} (h : Condensed b b') {m : Module} {type : FuncType}
    (hb : m.checkBody type b = .ok ()) : m.checkBody type b' = .ok () := by
  obtain ⟨code, hcode, hcode'⟩ := h.code
  obtain ⟨code₁, hcode₁, hcheck⟩ := Module.checkBody_eq_ok_iff.mp hb
  obtain rfl : code = code₁ := Except.ok.inj (hcode.symm.trans hcode₁)
  have htypes : b'.localTypes = b.localTypes := by rw [Body.localTypes, h.locals, Body.localTypes]
  refine Module.checkBody_eq_ok_iff.mpr ⟨_, hcode', ?_⟩
  rw [htypes]
  exact checkCode_condense (wellShaped_of_decodeAll hcode) hcheck

/-- What condensing makes of an accepted body, if that is not too long. -/
structure Recoded (b b' : Body) : Prop where
  condensed : Condensed b b'
  encodable : b'.Encodable
  size : (Encode.body b').length ≤ 2 * (Encode.body b).length

theorem condenseBody_eq {b : Body} {code : List Instr} (h : Instr.decodeAll b.code = .ok code) :
    condenseBody b = .ok { b with code := Instr.encodeAll (condense code) } := by
  simp only [condenseBody, h]

theorem exists_condenseBody {m : Module} {type : FuncType} {b : Body} (hb : b.Encodable)
    (hcheck : m.checkBody type b = .ok ()) (hsize : (Encode.body b).length < 2 ^ 31) :
    ∃ b', condenseBody b = .ok b' ∧ Recoded b b' := by
  obtain ⟨code, hcode, hchecked⟩ := Module.checkBody_eq_ok_iff.mp hcheck
  have hw := wellShaped_of_decodeAll hcode
  have hreduces : Reduces _ _ := reduces_condense hw
  have hends :=
    Scope.getLast?_of_checkCode (hreduces.wellShaped hw) (checkCode_condense hw hchecked)
  have hlength := length_condense_le hcode
  have hprefix := Decode.length_length_double
    (n := (Encode.vector Encode.localRun b.locals ++ Instr.encodeAll (condense code)).length)
    (k := (Encode.vector Encode.localRun b.locals ++ b.code).length)
  simp only [Encode.body, Encode.sized, List.length_append] at hsize hprefix
  refine ⟨_, condenseBody_eq hcode, ?_⟩
  constructor
  case condensed => exact ⟨rfl, code, hcode, decodeAll_condense hcode⟩
  case encodable =>
    refine ⟨hb.types, hb.count, Instr.getLast?_encodeAll hends, ?_⟩
    simp only [List.length_append]
    omega
  case size =>
    have hprefix := hprefix (by omega) (by omega)
    simp only [Encode.body, Encode.sized, List.length_append]
    omega

/-- Condensing fails on no body if it fails on none alone and nobody calls it off. -/
theorem exists_condenseBodies {P : Body → Body → Prop} {bs : List Body}
    (h : ∀ b ∈ bs, ∃ b', condenseBody b = .ok b' ∧ P b b') (n : Nat) :
    ∃ bs', condenseBodies none bs n = .ok bs' ∧ List.Forall₂ P bs bs' := by
  induction bs generalizing n with
  | nil => exact ⟨[], rfl, .nil⟩
  | cons b bs ih =>
    obtain ⟨b', hb, hP⟩ := h b (by simp)
    obtain ⟨bs', hbs, hPs⟩ := ih (fun b hb => h b (by simp [hb])) (n + 1)
    refine ⟨b' :: bs', ?_, .cons hP hPs⟩
    simp only [condenseBodies, hb, hbs]
    rfl

theorem optimize_eq {bytes : Bytes} {m : Module} {bodies : List Body}
    (hm : Module.decode bytes = .ok m) (h : condenseBodies none m.bodies 0 = .ok bodies) :
    optimize none bytes = .ok { m with bodies }.encode := by
  simp only [optimize, hm, h]
  rfl

/-- Bodies that are accepted can be condensed, of whatever size they are. -/
theorem exists_optimize {bytes : Bytes} (h : Module.validateBytes bytes = .ok ()) :
    ∃ out, optimize none bytes = .ok out := by
  obtain ⟨m, hm, -, hbodies⟩ := Module.validateBytes_eq_ok_iff.mp h
  have hbody : ∀ b ∈ m.bodies, ∃ b', condenseBody b = .ok b' ∧ True := by
    intro b hb
    obtain ⟨type, hcheck⟩ := Module.exists_checkBody_of_mem hbodies hb
    obtain ⟨code, hcode, -⟩ := Module.checkBody_eq_ok_iff.mp hcheck
    exact ⟨_, condenseBody_eq hcode, trivial⟩
  obtain ⟨bodies, hcondense, -⟩ := exists_condenseBodies hbody 0
  exact ⟨_, optimize_eq hm hcondense⟩

theorem length_vector_le {bs bs' : List Body} (h : List.Forall₂ Recoded bs bs') :
    (Encode.vector Encode.body bs').length ≤ 2 * (Encode.vector Encode.body bs).length := by
  have hitems : (bs'.flatMap Encode.body).length ≤ 2 * (bs.flatMap Encode.body).length := by
    induction h with
    | nil => simp
    | cons hb _ ih =>
      have hsize := hb.size
      simp only [List.flatMap_cons, List.length_append]
      omega
  rw [Encode.vector, Encode.vector, h.length_eq, List.length_append, List.length_append]
  omega

section Bodies

variable {m : Module} {bodies : List Body}

theorem length_body_le {b : Body} (h : b ∈ bodies) :
    (Encode.body b).length ≤ (Encode.vector Encode.body bodies).length := by
  obtain ⟨before, after, rfl⟩ := List.append_of_mem h
  simp only [Encode.vector, List.flatMap_append, List.flatMap_cons, List.length_append]
  omega

theorem encodable_bodies (hm : m.Encodable) (h : List.Forall₂ Recoded m.bodies bodies)
    (hsize : (Encode.vector Encode.body m.bodies).length < 2 ^ 31) :
    Module.Encodable { m with bodies } := by
  have hitems : ∀ b ∈ bodies, b.Encodable :=
    ((List.forall₂_and_left _ _).mp (h.flip.imp fun _ _ hb => ⟨hb.encodable, hb⟩)).1
  have hlength := length_vector_le h
  have hfits : (Encode.vector Encode.body bodies).length < 2 ^ 32 := by omega
  exact { hm with bodies := ⟨hitems, hfits⟩ }

theorem validateBytes_bodies (hm : { m with bodies }.Encodable)
    (h : List.Forall₂ Condensed m.bodies bodies) (hstructure : m.checkStructure = .ok ())
    (hbodies : m.checkBodies = .ok ()) :
    Module.validateBytes { m with bodies }.encode = .ok () := by
  refine (Module.validateBytes_encode hm).mpr ⟨?_, ?_⟩
  · rw [Module.checkStructure_bodies h.length_eq.symm]
    exact hstructure
  · exact Module.checkBodiesFrom_forall₂ (h.imp fun _ _ hb _ => hb.checkBody) hbodies

end Bodies

/-- The optimizer takes valid modules to valid modules in which only the code has changed, and the
code has been condensed. -/
theorem optimize_valid {a : Allowance} {data : Bytes} (ha : a.interrupt? = none)
    (hsize : data.length < 2 ^ 31) (hvalid : Module.validateBytes data = .ok ()) :
    ∃ m bodies out, Module.decode data = .ok m ∧
      Optimizer.peephole.apply a data = .ok out ∧
      Module.validateBytes out = .ok () ∧
      Module.decode out = .ok { m with bodies } ∧
      List.Forall₂ Condensed m.bodies bodies := by
  obtain ⟨m, hm, hstructure, hbodies⟩ := Module.validateBytes_eq_ok_iff.mp hvalid
  obtain ⟨hencodable, hle⟩ := Module.decode_ok hm
  have hvector := m.length_bodies_le
  have hbody : ∀ b ∈ m.bodies, ∃ b', condenseBody b = .ok b' ∧ Recoded b b' := by
    intro b hb
    obtain ⟨type, hcheck⟩ := Module.exists_checkBody_of_mem hbodies hb
    have hb' := length_body_le hb
    exact exists_condenseBody (hencodable.bodies.items b hb) hcheck (by omega)
  obtain ⟨bodies, hcondense, hrecoded⟩ := exists_condenseBodies hbody 0
  have hencodable' := encodable_bodies hencodable hrecoded (by omega)
  have hcondensed : List.Forall₂ Condensed m.bodies bodies :=
    hrecoded.imp fun _ _ hb => hb.condensed
  refine ⟨m, bodies, Module.encode { m with bodies }, hm, ?_,
    validateBytes_bodies hencodable' hcondensed hstructure hbodies,
    Module.decode_encode hencodable', hcondensed⟩
  change optimize a.interrupt? data = _
  rw [ha]
  exact optimize_eq hm hcondense

/-- A module with a section of its own, a constant of two bytes that fits in one, two moves, a loop
that clears a cell, and a move that cannot be reached. -/
def clearingModule : Bytes :=
  [0, 97, 115, 109, 1, 0, 0, 0, 1, 4, 1, 96, 0, 0, 3, 2, 1, 0, 5, 3, 1, 0, 1, 10, 66, 1, 64,
   1, 1, 127, 32, 0, 65, 129, 0, 106, 33, 0, 32, 0, 65, 1, 106, 33, 0, 2, 64, 32, 0, 40, 2,
   0, 69, 13, 0, 3, 64, 32, 0, 32, 0, 40, 2, 0, 65, 1, 107, 54, 2, 0, 32, 0, 40, 2, 0, 65, 0,
   71, 13, 0, 11, 11, 0, 32, 0, 65, 0, 106, 33, 0, 11, 0, 5, 3, 97, 98, 99, 42]

theorem optimize_valid_clearing :
    Module.validateBytes clearingModule = .ok () ∧
      ∃ m bodies out, Module.decode clearingModule = .ok m ∧
        Optimizer.peephole.apply .ample clearingModule = .ok out ∧
        Module.validateBytes out = .ok () ∧
        Module.decode out = .ok { m with bodies } ∧
        List.Forall₂ Condensed m.bodies bodies :=
  ⟨rfl, optimize_valid rfl (by decide) rfl⟩

end TapeWasm.Peephole
