import TapeWasm.Proofs.Build.Operations
import TapeWasm.Proofs.Emit.Validity
import TapeWasm.Proofs.Peephole.Validity
import TapeWasm.Proofs.Source.Filter

/-!
Builds up to compilation. Parsing is the only stage that can fail, and it fails exactly on texts
whose brackets do not match.
-/
namespace TapeWasm

open Wasm

@[simp] theorem Fault.stagePhase_inFile (f : Fault) (name : String) :
    (f.inFile name).stagePhase = f.stagePhase := by
  cases f with
  | stage label cause =>
    rw [inFile]
    split <;> rfl
  | plain | context | join => rfl

theorem exists_generate {text : Bytes}
    (h : Balanced ((Program.filter text).symbols.filterMap Symbol.ofByte?)) :
    ∃ bytes, Emit.generate (.filter text) .wasi = .ok bytes := by
  have hcheck := (Program.check_eq_ok_iff _).mpr h
  exact ⟨_, (Emit.generate_eq_ok_iff (.filter text) _).mpr
    ⟨⟨Program.inAlphabet_of_mem_filter, hcheck⟩, rfl⟩⟩

theorem Optimizer.exists_apply {o : Optimizer} (ho : o = .peephole ∨ o = .none) {a : Allowance}
    (ha : a.interrupt? = .none) {bytes : Bytes} (h : Module.validateBytes bytes = .ok ()) :
    ∃ out, o.apply a bytes = .ok out := by
  rcases ho with rfl | rfl
  · change ∃ out, Peephole.optimize a.interrupt? bytes = .ok out
    rw [ha]
    exact Peephole.exists_optimize h
  · exact ⟨bytes, rfl⟩

namespace Pipeline

variable {σ : Type} {p : Pipeline σ} {b b' : Build} {s : σ}

theorem performAll_stage {action : Action} {name : String}
    {work : Build → σ → Except Fault Build × σ}
    (haction : b.perform p action s = b.stage name b.state work s)
    (hwork : work b s = (.ok b', s)) (rest : List Action) :
    p.performAll b (action :: rest) s =
      p.performAll { b' with state := b.state.next, stages := b.stages ++ [name] } rest s := by
  rw [performAll, haction, Build.stage, if_neg (not_not_intro rfl), hwork]
  rfl

section Start

variable {a : Allowance} {request : Request}

theorem perform_parse_of_not_balanced
    (h : ¬ Balanced ((Program.filter request.source).symbols.filterMap Symbol.ofByte?))
    (p : Pipeline σ) (s : σ) :
    ∃ f, f.stagePhase = Phase.parse ∧
      (Build.start request).perform p .parse s = ⟨.start request, .refused f, s⟩ := by
  obtain ⟨pos, detail, hparse⟩ := Program.parse_of_not_balanced h
  refine ⟨(Fault.malformedProgram pos detail).inFile request.name, Fault.stagePhase_inFile _ _, ?_⟩
  simp [Build.perform, Build.stage, Build.start, Build.parse, hparse]

theorem performAll_parse_of_refused {f : Fault}
    (h : (Build.start request).perform p .parse s = ⟨.start request, .refused f, s⟩)
    (rest : List Action) :
    p.performAll (.start request) (.parse :: rest) s = (.start request, .error f, s) := by
  rw [performAll, h]
  rfl

/-- A build gets as far as its optimized module if the work of every stage up to there succeeds. -/
theorem performAll_of_ok {program : Program} {bytes out : Bytes}
    (hparse : Program.parse request.source = .ok program)
    (hgenerate : p.generate program = .ok bytes) (hvalidate : p.validate bytes = .ok ())
    (hoptimize : p.optimizer.apply a bytes = .ok out) (s : σ) :
    ∃ b, p.performAll (.start request) (buildActions a).dropLast s = (b, .ok (), s) ∧
      b.state = .optimized ∧ b.module = out := by
  have hparsed : Build.parse (.start request) s =
      (.ok { Build.start request with program }, s) := by
    simp [Build.parse, Build.start, hparse]
  change ∃ b, p.performAll _ [.parse, .generate, .validate, .optimize a] s = _ ∧ _
  rw [performAll_stage rfl hparsed]
  have hgenerated (b : Build) (hb : b.program = program) :
      Build.generate p b s = (.ok { b with module := bytes }, s) := by
    simp [Build.generate, hb, hgenerate]
  rw [performAll_stage rfl (hgenerated _ rfl)]
  have hvalidated (b : Build) (hb : b.module = bytes) : Build.validate p b s = (.ok b, s) := by
    simp [Build.validate, hb, hvalidate]
  rw [performAll_stage rfl (hvalidated _ rfl)]
  have hoptimized (b : Build) (hb : b.module = bytes) :
      Build.optimize p a b s = (.ok { b with module := out }, s) := by
    simp [Build.optimize, hb, hoptimize]
  rw [performAll_stage rfl (hoptimized _ rfl)]
  exact ⟨_, rfl, rfl, rfl⟩

theorem performAll_of_balanced {o : Optimizer} (ho : o = .peephole ∨ o = .none)
    (ha : a.interrupt? = none) (e : Engine)
    (hsize : ∀ bytes, Emit.generate (.filter request.source) .wasi = .ok bytes →
      bytes.length < 2 ^ 32)
    (h : Balanced ((Program.filter request.source).symbols.filterMap Symbol.ofByte?))
    (shop : Workshop) :
    ∃ bytes out b, Emit.generate (.filter request.source) .wasi = .ok bytes ∧
      Module.validateBytes bytes = .ok () ∧ o.apply a bytes = .ok out ∧
      (standard .wasi o e).performAll (.start request) (buildActions a).dropLast shop =
        (b, .ok (), shop) ∧
      b.state = .optimized ∧ b.module = out := by
  obtain ⟨bytes, hbytes⟩ := exists_generate h
  have hvalid := Emit.validateBytes_generate hbytes (hsize bytes hbytes)
  have hvalidate : (standard .wasi o e).validate bytes = .ok () := by
    change validateBytes bytes = _
    rw [validateBytes, hvalid]
  obtain ⟨out, hout⟩ := Optimizer.exists_apply ho ha hvalid
  obtain ⟨b, hb⟩ := performAll_of_ok (Program.parse_of_balanced h) hbytes hvalidate hout shop
  exact ⟨bytes, out, b, hbytes, hvalid, hout, hb⟩

end Start

/-- With the target and the optimizers that need no tool, a build fails before it is compiled if and
only if a bracket has no partner, and then nothing but parsing has been tried. What is generated for
any other text is valid, and the optimizer can do its work on it. The engine has no part in that. -/
theorem performAll_before_compile {o : Optimizer} (ho : o = .peephole ∨ o = .none)
    {a : Allowance} (ha : a.interrupt? = none) (e : Engine) (shop : Workshop) (request : Request)
    (hsize : ∀ bytes, Emit.generate (.filter request.source) .wasi = .ok bytes →
      bytes.length < 2 ^ 32) :
    let p := standard .wasi o e
    let program := Program.filter request.source
    let IsBalanced := Balanced (program.symbols.filterMap Symbol.ofByte?)
    let before := (buildActions a).dropLast
    ((∃ f, (p.performAll (.start request) before shop).2.1 = .error f) ↔ ¬ IsBalanced) ∧
      (¬ IsBalanced → ∃ f, f.stagePhase = Phase.parse ∧
        (Build.start request).perform p .parse shop = ⟨.start request, .refused f, shop⟩ ∧
        p.performAll (.start request) (buildActions a) shop = (.start request, .error f, shop)) ∧
      (IsBalanced → ∃ bytes out b, p.generate program = .ok bytes ∧
        Module.validateBytes bytes = .ok () ∧ o.apply a bytes = .ok out ∧
        p.performAll (.start request) before shop = (b, .ok (), shop) ∧
        b.state = .optimized ∧ b.module = out ∧
        p.performAll (.start request) (buildActions a) shop = p.performAll b [.compile a] shop) := by
  intro p program IsBalanced before
  refine ⟨⟨?_, ?_⟩, ?_, ?_⟩
  · rintro ⟨f, hf⟩ h
    obtain ⟨-, -, b, -, -, -, hb, -⟩ := performAll_of_balanced ho ha e hsize h shop
    rw [hb] at hf
    cases hf
  · intro h
    obtain ⟨f, -, hparse⟩ := perform_parse_of_not_balanced h p shop
    exact ⟨f, congrArg (·.2.1) (performAll_parse_of_refused hparse _)⟩
  · intro h
    obtain ⟨f, hphase, hparse⟩ := perform_parse_of_not_balanced h p shop
    exact ⟨f, hphase, hparse, performAll_parse_of_refused hparse _⟩
  · intro h
    obtain ⟨bytes, out, b, hbytes, hvalid, hout, hb, hstate, hmodule⟩ :=
      performAll_of_balanced ho ha e hsize h shop
    exact ⟨bytes, out, b, hbytes, hvalid, hout, hb, hstate, hmodule,
      performAll_append_of_ok hb [.compile a]⟩

/-- A text with a comment in it, and a text whose only bracket stays open. -/
theorem performAll_before_compile_countdown :
    (∃ bytes out b, Emit.generate (.filter [43, 32, 91, 45, 93]) .wasi = .ok bytes ∧
      Module.validateBytes bytes = .ok () ∧ Optimizer.peephole.apply .ample bytes = .ok out ∧
      (standard .wasi .peephole {}).performAll (.start { source := [43, 32, 91, 45, 93] })
        (buildActions .ample).dropLast {} = (b, .ok (), {}) ∧ b.module = out) ∧
    ∃ f, f.stagePhase = Phase.parse ∧
      (standard .wasi .none {}).performAll (.start { source := [91] }) (buildActions .ample) {} =
        (.start { source := [91] }, .error f, {}) := by
  have hshort : ∀ bytes, Emit.generate (.filter [43, 32, 91, 45, 93]) .wasi = .ok bytes →
      bytes.length < 2 ^ 32 := by
    intro bytes h
    have hlength : (Emit.generate (.filter [43, 32, 91, 45, 93]) .wasi).toOption.all
        (fun bytes => bytes.length < 2 ^ 32) := by decide +kernel
    rw [h] at hlength
    simpa [Except.toOption] using hlength
  obtain ⟨-, -, hdone⟩ := performAll_before_compile (.inl rfl) (a := .ample) rfl {} {}
    { source := [43, 32, 91, 45, 93] } hshort
  obtain ⟨-, hrefused, -⟩ := performAll_before_compile (.inr rfl) (a := .ample) rfl {} {}
    { source := [91] } (fun _ h => by cases h)
  constructor
  · obtain ⟨bytes, out, b, hbytes, hvalid, hout, hb, -, hmodule, -⟩ :=
      hdone (balanced_iff_closes.mpr rfl)
    exact ⟨bytes, out, b, hbytes, hvalid, hout, hb, hmodule⟩
  · obtain ⟨f, hphase, -, hf⟩ := hrefused fun h => nomatch balanced_iff_closes.mp h
    exact ⟨f, hphase, hf⟩

end Pipeline
end TapeWasm
