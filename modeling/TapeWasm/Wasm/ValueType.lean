/-!
Value types and function types.
-/
namespace TapeWasm.Wasm

/-- A value type by its byte. Only the four number types are valid; the byte zero stands for an
operand whose type is not known. -/
structure ValueType where
  byte : UInt8
  deriving DecidableEq, Repr

namespace ValueType

def i32 : ValueType := ⟨0x7f⟩
def i64 : ValueType := ⟨0x7e⟩
def f32 : ValueType := ⟨0x7d⟩
def f64 : ValueType := ⟨0x7c⟩
def unknown : ValueType := ⟨0⟩

def isValid (t : ValueType) : Bool :=
  t == i32 || t == i64 || t == f32 || t == f64

def name (t : ValueType) : String :=
  if t = i32 then "i32"
  else if t = i64 then "i64"
  else if t = f32 then "f32"
  else if t = f64 then "f64"
  else "unknown"

end ValueType

structure FuncType where
  params : List ValueType := []
  results : List ValueType := []
  deriving DecidableEq, Repr

end TapeWasm.Wasm
