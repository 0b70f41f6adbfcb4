import TapeWasm.Emit.Code
import TapeWasm.Emit.Target
import TapeWasm.Source.Brackets
import TapeWasm.Wasm.Module
import TapeWasm.Wasm.Module.Encode

/-!
The module of a tape program: two imported functions that move bytes, one memory, and one function,
exported under the names that a host looks for.
-/
namespace TapeWasm.Emit

open Wasm

/-- What keeps symbols from having code: a bracket without a partner, or a byte that is no symbol. -/
inductive SymbolFault where
  | bracket (fault : BracketFault)
  | foreign (index : Nat) (byte : UInt8)
  deriving DecidableEq, Repr

/-- The first fault from symbol `i` on, with the indices of the open brackets, innermost first. -/
def faultFrom : Bytes → Nat → List Nat → Option SymbolFault
  | [], _, [] => none
  | [], _, i :: _ => some (.bracket (.unclosed i))
  | b :: r, i, opened =>
    match Symbol.ofByte? b with
    | some .opening => faultFrom r (i + 1) (i :: opened)
    | some .closing =>
      match opened with
      | [] => some (.bracket (.unmatched i))
      | _ :: outer => faultFrom r (i + 1) outer
    | some _ => faultFrom r (i + 1) opened
    | none => some (.foreign i b)

def SymbolFault.report (f : SymbolFault) (p : Program) : Fault :=
  match f with
  | .bracket f => f.report p
  | .foreign i b =>
    .stage
      { phase := Phase.generate
        kind := Kind.invalidInput
        pos := some (p.position i)
        subject := some (.byte b.toNat)
        detail := "symbol " ++ Text.quote (symbolText b) ++ " outside the alphabet" } none

def startType : FuncType := {}

def hostImport (c : HostCall) : Import :=
  ⟨HostCall.hostModule, c.name, .func 1⟩

/-- The module with the given body as its function. -/
def moduleOf (code : Bytes) : Module where
  types := [startType, HostCall.type]
  imports := [hostImport .read, hostImport .write]
  funcs := [0]
  memories := [⟨layout.pages, none⟩]
  exports := [⟨"memory", ExternKind.memory, 0⟩, ⟨"_start", ExternKind.func, Func.start⟩]
  bodies := [{ locals := [⟨Var.count, .i32⟩], code }]

def build (p : Program) (target : Target) : Except Fault Module :=
  match target with
  | .wasi =>
    match faultFrom p.symbols 0 [] with
    | some f => .error (f.report p)
    | none => .ok (moduleOf (Instr.encodeAll (program p.symbols)))
  | _ => .error (.unsupportedTarget target.name)

def generate (p : Program) (target : Target) : Except Fault Bytes := do
  let m ← build p target
  return m.encode

end TapeWasm.Emit
