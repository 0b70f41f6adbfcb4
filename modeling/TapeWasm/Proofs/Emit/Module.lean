import TapeWasm.Emit.Module
import TapeWasm.Engine.Instance
import TapeWasm.Proofs.Codec.Module
import TapeWasm.Proofs.Codec.Instr
import TapeWasm.Proofs.Source.Brackets

/-!
The modules of programs: which programs have one, and what a run of one starts with.
-/
namespace TapeWasm

open Wasm

/-- What a run of a module's entry starts with: the host's functions and the machine. -/
def launch? (m : Module) (input : Bytes) : Option (List HostCall × Machine) := do
  let i ← (Instance.ofModule m).toOption
  let e ← Entry.ofModule? m
  let code ← (Instr.decodeAll e.body.code).toOption
  return (i.host, e.machine i code input)

namespace Emit

/-- Symbols have code if they are symbols and their brackets match. -/
theorem faultFrom_eq_none_iff (bs : Bytes) (i : Nat) (opened : List Nat) :
    faultFrom bs i opened = none ↔
      (∀ b ∈ bs, inAlphabet b) ∧ Closes opened.length (bs.filterMap Symbol.ofByte?) := by
  induction bs generalizing i opened with
  | nil => cases opened <;> simp [faultFrom, Closes]
  | cons b r ih =>
    unfold faultFrom
    cases hb : Symbol.ofByte? b with
    | none => simp [inAlphabet, hb]
    | some s =>
      have halphabet : (∀ x ∈ b :: r, inAlphabet x) ↔ ∀ x ∈ r, inAlphabet x := by
        simp [inAlphabet, hb]
      rw [List.filterMap_cons_some hb, halphabet]
      cases s with
      | opening => exact ih (i + 1) (i :: opened)
      | closing =>
        cases opened with
        | nil => simp [Closes]
        | cons _ outer => exact ih (i + 1) outer
      | _ => exact ih (i + 1) opened

theorem build_eq_ok_iff (p : Program) (m : Module) :
    build p .wasi = .ok m ↔
      ((∀ b ∈ p.symbols, inAlphabet b) ∧ p.check = .ok ()) ∧
        m = moduleOf (Instr.encodeAll (program p.symbols)) := by
  rw [p.check_eq_ok_iff, balanced_iff_closes]
  have hfault := faultFrom_eq_none_iff p.symbols 0 []
  rw [List.length_nil] at hfault
  rw [← hfault]
  unfold build
  cases faultFrom p.symbols 0 [] with
  | none => simp [eq_comm]
  | some f => simp

theorem generate_eq_ok_iff (p : Program) (bytes : Bytes) :
    generate p .wasi = .ok bytes ↔
      ((∀ b ∈ p.symbols, inAlphabet b) ∧ p.check = .ok ()) ∧
        bytes = (moduleOf (Instr.encodeAll (program p.symbols))).encode := by
  constructor
  · intro h
    cases hm : build p .wasi with
    | error f =>
      rw [generate, hm] at h
      cases h
    | ok m =>
      obtain ⟨hp, rfl⟩ := (build_eq_ok_iff p m).mp hm
      rw [generate, hm] at h
      exact ⟨hp, (Except.ok.inj h).symm⟩
  · rintro ⟨hp, rfl⟩
    rw [generate, (build_eq_ok_iff p _).mpr ⟨hp, rfl⟩]
    rfl

theorem symbols_eq (bs : Bytes) :
    symbols bs = (bs.filterMap Symbol.ofByte?).flatMap symbol := by
  induction bs with
  | nil => rfl
  | cons b r ih =>
    unfold symbols at ih ⊢
    rw [List.flatMap_cons, ih]
    cases hb : Symbol.ofByte? b <;> simp [hb]

theorem wellShaped_symbol (s : Symbol) :
    ∀ i ∈ symbol s, i.WellShaped ∧ i.op ≠ Op.brTable := by
  cases s <;> decide

theorem encodable_program (bs : Bytes) : ∀ i ∈ program bs, i.Encodable := by
  have hends : ∀ i ∈ prologue ++ epilogue, i.WellShaped ∧ i.op ≠ Op.brTable := by decide
  have hall : ∀ i ∈ program bs, i.WellShaped ∧ i.op ≠ Op.brTable := by
    intro i hi
    rw [program, symbols_eq] at hi
    simp only [List.mem_append, List.mem_flatMap] at hi hends
    obtain (hi | ⟨s, -, hi⟩) | hi := hi
    · exact hends i (.inl hi)
    · exact wellShaped_symbol s i hi
    · exact hends i (.inr hi)
  exact fun i hi => (hall i hi).1.encodable (hall i hi).2

/-- The machine at the start of a program: all variables and all of the memory are zero. -/
def initial (bs input : Bytes) : Machine :=
  Machine.start (program bs) 0 [.i32 0, .i32 0, .i32 0, .i32 0]
    ⟨Memory.zeroed 196608, input, #[]⟩

theorem launch?_of_decodeAll {bytes : Bytes} {code : List Instr}
    (h : Instr.decodeAll bytes = .ok code) (input : Bytes) :
    launch? (moduleOf bytes) input =
      some ([.read, .write], Machine.start code 0 [.i32 0, .i32 0, .i32 0, .i32 0]
        ⟨Memory.zeroed 196608, input, #[]⟩) := by
  have hinstance : Instance.ofModule (moduleOf bytes) =
      .ok ⟨[.read, .write], some (Memory.zeroed 196608)⟩ := rfl
  have hentry : Entry.ofModule? (moduleOf bytes) =
      some ⟨2, {}, { locals := [⟨4, .i32⟩], code := bytes }⟩ := rfl
  unfold launch?
  rw [hinstance, hentry]
  change ((Instr.decodeAll bytes).toOption >>= _) = _
  rw [h]
  rfl

@[simp] theorem launch?_moduleOf (bs input : Bytes) :
    launch? (moduleOf (Instr.encodeAll (program bs))) input =
      some ([.read, .write], initial bs input) :=
  launch?_of_decodeAll (Instr.decodeAll_encodeAll (encodable_program bs)) input

end Emit
end TapeWasm
