import TapeWasm.Wasm.ValueType

/-!
Values of running programs. Numbers with a fraction are kept as their bits, since programs only move
them.
-/
namespace TapeWasm.Wasm

inductive Value where
  | i32 (value : UInt32)
  | i64 (value : UInt64)
  | f32 (bits : UInt32)
  | f64 (bits : UInt64)
  deriving DecidableEq, Repr

namespace Value

def type : Value → ValueType
  | i32 _ => .i32
  | i64 _ => .i64
  | f32 _ => .f32
  | f64 _ => .f64

/-- What a variable of a type holds at the start. -/
def zero (t : ValueType) : Value :=
  if t = .i64 then i64 0
  else if t = .f32 then f32 0
  else if t = .f64 then f64 0
  else i32 0

@[simp] theorem type_i32 (v : UInt32) : (i32 v).type = .i32 := rfl

theorem type_zero {t : ValueType} (h : t.isValid) : (zero t).type = t := by
  simp only [ValueType.isValid, Bool.or_eq_true, beq_iff_eq] at h
  rcases h with ((rfl | rfl) | rfl) | rfl <;> rfl

/-- A value of the type of words is a word. -/
theorem eq_i32_of_type {v : Value} (h : v.type = .i32) : ∃ w, v = i32 w := by
  cases v with
  | i32 w => exact ⟨w, rfl⟩
  | i64 w => simp [type, ValueType.i64, ValueType.i32] at h
  | f32 w => simp [type, ValueType.f32, ValueType.i32] at h
  | f64 w => simp [type, ValueType.f64, ValueType.i32] at h

end Value
end TapeWasm.Wasm
