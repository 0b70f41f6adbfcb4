import TapeWasm.Proofs.Emit.Module
import TapeWasm.Proofs.Source.Matching

/-!
Programs without a module. On the eight symbols the emitter and the check of a program find the same
fault. With other bytes in the program the emitter stops at the first of them, or at a `]` before it
that closes nothing.
-/
namespace TapeWasm

namespace Program

/-- The check says what is wrong with the brackets. -/
theorem check_eq_error_iff (p : Program) (f : Fault) :
    p.check = .error f ↔
      (∃ j, IsLeast {j | ClosesNothing p.symbols j} j ∧
        f = .malformedProgram (p.position j) "unmatched ']'") ∨
      (∀ j, ¬ ClosesNothing p.symbols j) ∧
        ∃ i, IsGreatest {i | NeverClosed p.symbols i} i ∧
          f = .malformedProgram (p.position i) "unclosed '['" := by
  have hexplains := p.bracketFault?_explains
  unfold check
  cases hfault : p.bracketFault? with
  | none =>
    rw [hfault] at hexplains
    obtain ⟨hbalanced, hclosing, hopening⟩ := hexplains
    constructor
    · intro h
      cases h
    · rintro (⟨j, hj, -⟩ | ⟨-, i, hi, -⟩)
      · exact absurd hj.1 (hclosing j)
      · exact absurd hi.1 (hopening i)
  | some fault =>
    rw [hfault] at hexplains
    cases fault with
    | unmatched j =>
      constructor
      · intro h
        exact .inl ⟨j, hexplains, (Except.error.inj h).symm⟩
      · rintro (⟨j', hj, rfl⟩ | ⟨hnone, -⟩)
        · rw [hj.unique hexplains]
          rfl
        · exact absurd hexplains.1 (hnone j)
    | unclosed i =>
      constructor
      · intro h
        exact .inr ⟨hexplains.1, i, hexplains.2, (Except.error.inj h).symm⟩
      · rintro (⟨j, hj, -⟩ | ⟨-, i', hi, rfl⟩)
        · exact absurd hj.1 (hexplains.1 j)
        · rw [hi.unique hexplains.2]
          rfl

end Program

namespace Emit

section Symbols

variable {bs : Bytes} {i : Nat} {opened : List Nat}

/-- On symbols the emitter matches brackets as the check of a program does. -/
theorem faultFrom_of_inAlphabet (h : ∀ b ∈ bs, inAlphabet b) :
    faultFrom bs i opened = (Program.bracketFaultFrom bs i opened).map .bracket := by
  induction bs generalizing i opened with
  | nil => cases opened <;> rfl
  | cons b r ih =>
    obtain ⟨hb, hr⟩ := List.forall_mem_cons.mp h
    obtain ⟨s, hs⟩ := Option.isSome_iff_exists.mp hb
    unfold faultFrom Program.bracketFaultFrom
    rw [hs]
    cases s with
    | closing =>
      cases opened with
      | nil => rfl
      | cons _ outer => exact ih hr
    | _ => exact ih hr

/-- A `]` that closes nothing ends the search, whatever follows it. -/
theorem faultFrom_of_unmatched {j : Nat} (r : Bytes) (h : ∀ b ∈ bs, inAlphabet b)
    (hfault : Program.bracketFaultFrom bs i opened = some (.unmatched j)) :
    faultFrom (bs ++ r) i opened = some (.bracket (.unmatched j)) := by
  induction bs generalizing i opened with
  | nil => cases opened <;> cases hfault
  | cons b bs ih =>
    obtain ⟨hb, hbs⟩ := List.forall_mem_cons.mp h
    obtain ⟨s, hs⟩ := Option.isSome_iff_exists.mp hb
    unfold Program.bracketFaultFrom at hfault
    rw [List.cons_append]
    unfold faultFrom
    rw [hs] at hfault ⊢
    cases s with
    | closing =>
      cases opened with
      | nil =>
        obtain rfl : i = j := by simpa using hfault
        rfl
      | cons _ outer => exact ih hbs hfault
    | _ => exact ih hbs hfault

/-- Without such a bracket the search comes to the first byte that is no symbol. -/
theorem faultFrom_of_foreign {b : UInt8} (r : Bytes) (h : ∀ c ∈ bs, inAlphabet c)
    (hb : ¬ inAlphabet b)
    (hfault : ∀ j, Program.bracketFaultFrom bs i opened ≠ some (.unmatched j)) :
    faultFrom (bs ++ b :: r) i opened = some (.foreign (i + bs.length) b) := by
  induction bs generalizing i opened with
  | nil =>
    have hnone : Symbol.ofByte? b = none := by simpa [inAlphabet] using hb
    rw [List.nil_append]
    unfold faultFrom
    rw [hnone]
    rfl
  | cons c bs ih =>
    obtain ⟨hc, hbs⟩ := List.forall_mem_cons.mp h
    obtain ⟨s, hs⟩ := Option.isSome_iff_exists.mp hc
    have hlength : i + (c :: bs).length = i + 1 + bs.length := by
      rw [List.length_cons]
      omega
    unfold Program.bracketFaultFrom at hfault
    rw [List.cons_append, hlength]
    unfold faultFrom
    rw [hs] at hfault ⊢
    cases s with
    | closing =>
      cases opened with
      | nil => exact absurd rfl (hfault i)
      | cons _ outer => exact ih hbs hfault
    | _ => exact ih hbs hfault

end Symbols

structure FirstForeign (bs : Bytes) (k : Nat) (b : UInt8) : Prop where
  here : bs[k]? = some b
  foreign : ¬ inAlphabet b
  before : ∀ c ∈ bs.take k, inAlphabet c

theorem build_eq_error_of_faultFrom {p : Program} {f : SymbolFault}
    (h : faultFrom p.symbols 0 [] = some f) : build p .wasi = .error (f.report p) := by
  unfold build
  rw [h]

theorem build_eq_error_iff_check {p : Program} (h : ∀ b ∈ p.symbols, inAlphabet b) (f : Fault) :
    build p .wasi = .error f ↔ p.check = .error f := by
  unfold build Program.check Program.bracketFault?
  rw [faultFrom_of_inAlphabet h]
  cases Program.bracketFaultFrom p.symbols 0 [] with
  | none => simp
  | some fault => simp [SymbolFault.report]

theorem build_eq_error_of_foreign {p : Program} {k : Nat} {b : UInt8}
    (h : FirstForeign p.symbols k b) :
    (∃ j < k, IsLeast {j | ClosesNothing p.symbols j} j ∧
      build p .wasi = .error (.malformedProgram (p.position j) "unmatched ']'")) ∨
    (∀ j < k, ¬ ClosesNothing p.symbols j) ∧
      build p .wasi = .error ((SymbolFault.foreign k b).report p) := by
  obtain ⟨hk, hget⟩ := List.getElem?_eq_some_iff.mp h.here
  have hlength : (p.symbols.take k).length = k := List.length_take_of_le hk.le
  have hbs : p.symbols = p.symbols.take k ++ b :: p.symbols.drop (k + 1) := by
    rw [← hget, List.getElem_cons_drop, List.take_append_drop]
  have hbefore (j : Nat) (hj : j < k) :
      ClosesNothing p.symbols j ↔ ClosesNothing (p.symbols.take k) j := by
    conv_lhs => rw [hbs]
    exact closesNothing_append _ (by omega)
  have hexplains := bracketFaultFrom_explains (p.symbols.take k) .nil
  rw [List.nil_append, List.length_nil] at hexplains
  have hforeign (hnone : ∀ j, ¬ ClosesNothing (p.symbols.take k) j)
      (hfault : ∀ j, Program.bracketFaultFrom (p.symbols.take k) 0 [] ≠ some (.unmatched j)) :
      (∀ j < k, ¬ ClosesNothing p.symbols j) ∧
        build p .wasi = .error ((SymbolFault.foreign k b).report p) := by
    refine ⟨fun j hj hclosing => hnone j ((hbefore j hj).mp hclosing), ?_⟩
    apply build_eq_error_of_faultFrom
    rw [hbs, faultFrom_of_foreign _ h.before h.foreign hfault, hlength, Nat.zero_add]
  cases hfault : Program.bracketFaultFrom (p.symbols.take k) 0 [] with
  | none =>
    rw [hfault] at hexplains
    exact .inr (hforeign hexplains.2.1 (by simp [hfault]))
  | some fault =>
    rw [hfault] at hexplains
    cases fault with
    | unclosed i => exact .inr (hforeign hexplains.1 (by simp [hfault]))
    | unmatched j =>
      have hj : j < k := hlength ▸ hexplains.1.lt
      refine .inl ⟨j, hj, ⟨(hbefore j hj).mpr hexplains.1, fun i hi => ?_⟩, ?_⟩
      · rcases Nat.lt_or_ge i k with hlt | hge
        · exact hexplains.2 ((hbefore i hlt).mp hi)
        · omega
      · have hbuild := faultFrom_of_unmatched (b :: p.symbols.drop (k + 1)) h.before hfault
        rw [← hbs] at hbuild
        exact build_eq_error_of_faultFrom hbuild

/-- The check accepts the words of the grammar. Of other programs it reports the first `]` that
closes nothing or, if there is none, the last `[` that is never closed. On symbols the emitter
refuses the same programs with the same faults; otherwise it reports the first byte that is no
symbol, or the first `]` that closes nothing, whichever comes first. -/
theorem build_agrees_with_check (p : Program) :
    (p.check = .ok () ↔ Balanced (word p.symbols)) ∧
    (∀ f, p.check = .error f ↔
      (∃ j, IsLeast {j | ClosesNothing p.symbols j} j ∧
        f = .malformedProgram (p.position j) "unmatched ']'") ∨
      (∀ j, ¬ ClosesNothing p.symbols j) ∧
        ∃ i, IsGreatest {i | NeverClosed p.symbols i} i ∧
          f = .malformedProgram (p.position i) "unclosed '['") ∧
    ((∀ b ∈ p.symbols, inAlphabet b) →
      ((∃ m, build p .wasi = .ok m) ↔ p.check = .ok ()) ∧
      ∀ f, build p .wasi = .error f ↔ p.check = .error f) ∧
    ∀ k b, FirstForeign p.symbols k b →
      (∃ j < k, IsLeast {j | ClosesNothing p.symbols j} j ∧
        build p .wasi = .error (.malformedProgram (p.position j) "unmatched ']'")) ∨
      (∀ j < k, ¬ ClosesNothing p.symbols j) ∧
        build p .wasi = .error ((SymbolFault.foreign k b).report p) := by
  refine ⟨p.check_eq_ok_iff, p.check_eq_error_iff, fun h => ⟨⟨?_, ?_⟩, ?_⟩, ?_⟩
  · rintro ⟨m, hm⟩
    exact ((build_eq_ok_iff p m).mp hm).1.2
  · intro hcheck
    exact ⟨_, (build_eq_ok_iff p _).mpr ⟨⟨h, hcheck⟩, rfl⟩⟩
  · exact build_eq_error_iff_check h
  · intro k b hforeign
    exact build_eq_error_of_foreign hforeign

/-- In `[]][` the second `]` closes nothing, in `[[]` the first `[` is never closed, and in `[x]]`
the letter comes before the `]` that closes nothing. -/
theorem build_agrees_with_check_brackets :
    build ⟨[91, 93, 93, 91], []⟩ .wasi = .error (.malformedProgram ⟨2, 1, 3⟩ "unmatched ']'") ∧
    build ⟨[91, 91, 93], [⟨7, 3, 2⟩]⟩ .wasi =
      .error (.malformedProgram ⟨7, 3, 2⟩ "unclosed '['") ∧
    ∃ f, f.stagePhase = Phase.generate ∧ build ⟨[91, 120, 93, 93], []⟩ .wasi = .error f := by
  refine ⟨?_, ?_, ?_⟩
  · obtain ⟨-, -, hbuild, -⟩ := build_agrees_with_check ⟨[91, 93, 93, 91], []⟩
    exact ((hbuild (List.all_eq_true.mp rfl)).2 _).mpr rfl
  · obtain ⟨-, -, hbuild, -⟩ := build_agrees_with_check ⟨[91, 91, 93], [⟨7, 3, 2⟩]⟩
    exact ((hbuild (List.all_eq_true.mp rfl)).2 _).mpr rfl
  · obtain ⟨-, -, -, hforeign⟩ := build_agrees_with_check ⟨[91, 120, 93, 93], []⟩
    rcases hforeign 1 120 ⟨rfl, by decide, List.all_eq_true.mp rfl⟩ with
      ⟨j, hj, hleast, -⟩ | ⟨-, hbuild⟩
    · obtain rfl : j = 0 := by omega
      exact absurd hleast.1.1 (by decide)
    · exact ⟨_, rfl, hbuild⟩

end Emit
end TapeWasm
