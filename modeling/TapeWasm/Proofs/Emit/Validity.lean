import TapeWasm.Proofs.Emit.Readable
import TapeWasm.Proofs.Emit.Typing
import TapeWasm.Proofs.Typing.Validate

/-!
The modules of programs are valid.
-/
namespace TapeWasm.Emit

open Wasm

@[simp] theorem getLast?_program (bs : Bytes) :
    (Instr.encodeAll (program bs)).getLast? = some Op.stop := by
  apply Instr.getLast?_encodeAll
  rw [program, List.getLast?_append_of_ne_nil]
  · rfl
  · decide

theorem encodable_moduleOf {bs : Bytes}
    (hsize : (moduleOf (Instr.encodeAll (program bs))).encode.length < 2 ^ 32) :
    (moduleOf (Instr.encodeAll (program bs))).Encodable :=
  encodable_moduleOf_of_fits (getLast?_program bs) (fitsSection_of_length hsize)

theorem checkBodies_moduleOf {bs : Bytes} (h : Balanced (bs.filterMap Symbol.ofByte?)) :
    (moduleOf (Instr.encodeAll (program bs))).checkBodies = .ok () := by
  have htype (code : Bytes) : (moduleOf code).funcType? (UInt32.ofNat 2) = some startType := rfl
  change (moduleOf _).checkBodiesFrom
    [{ locals := [⟨Var.count, .i32⟩], code := Instr.encodeAll (program bs) }] 2 = .ok ()
  simp only [Module.checkBodiesFrom, htype, checkBody_program h]

/-- What is generated for a program is a valid module. -/
theorem validateBytes_generate {p : Program} {bytes : Bytes}
    (h : generate p .wasi = .ok bytes) (hsize : bytes.length < 2 ^ 32) :
    Module.validateBytes bytes = .ok () := by
  obtain ⟨⟨-, hcheck⟩, rfl⟩ := (generate_eq_ok_iff p bytes).mp h
  refine (Module.validateBytes_encode (encodable_moduleOf hsize)).mpr ⟨rfl, ?_⟩
  exact checkBodies_moduleOf (p.check_eq_ok_iff.mp hcheck)

end TapeWasm.Emit
