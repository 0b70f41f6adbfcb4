import TapeWasm.Proofs.Source.Brackets

/-!
The symbols of a text are its bytes of the alphabet, in order, and a text can be parsed if its
brackets match.
-/
namespace TapeWasm.Program

theorem map_filterFrom (text : Bytes) (at_ : Position) (acc : List (UInt8 × Position)) :
    (filterFrom text at_ acc).map (·.1) =
      (acc.map (·.1)).reverse ++ text.filter inAlphabet := by
  induction text generalizing at_ acc with
  | nil => simp [filterFrom]
  | cons b r ih =>
    rw [filterFrom, ih]
    by_cases h : inAlphabet b <;> simp [h]

@[simp] theorem symbols_filter (text : Bytes) :
    (filter text).symbols = text.filter inAlphabet := by
  rw [filter, map_filterFrom]
  rfl

theorem inAlphabet_of_mem_filter {text : Bytes} :
    ∀ b ∈ (filter text).symbols, inAlphabet b := by
  simp

theorem parse_of_balanced {text : Bytes}
    (h : Balanced ((filter text).symbols.filterMap Symbol.ofByte?)) :
    parse text = .ok (filter text) := by
  have hcheck := (filter text).check_eq_ok_iff.mpr h
  simp only [parse, hcheck]
  rfl

/-- A text with a bracket that has no partner is refused by the parser. -/
theorem parse_of_not_balanced {text : Bytes}
    (h : ¬ Balanced ((filter text).symbols.filterMap Symbol.ofByte?)) :
    ∃ pos detail, parse text = .error (.malformedProgram pos detail) := by
  have hcheck := mt (filter text).check_eq_ok_iff.mp h
  unfold check at hcheck
  cases hf : (filter text).bracketFault? with
  | none => simp [hf] at hcheck
  | some f =>
    refine ⟨(filter text).position f.index, f.detail, ?_⟩
    simp only [parse, check, hf]
    rfl

end TapeWasm.Program
