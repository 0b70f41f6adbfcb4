import TapeWasm.Proofs.Build.Calls

/-!
Whole operations. Up to compilation an operation leaves the compiler alone; then it has one module
compiled, does its last action with what came of that, and has it closed. `Operated` says so once.
-/
namespace TapeWasm.Pipeline

variable {σ : Type} {p : Pipeline σ} {b b' : Build} {f : Fault} {request : Request} {a : Allowance}
  {s s' : σ} {action : Action}

theorem performAll_cons_ok (h : (b.perform p action s).reply.result = .ok ())
    (rest : List Action) :
    p.performAll b (action :: rest) s =
      p.performAll (b.perform p action s).build rest (b.perform p action s).state := by
  rw [performAll]
  generalize b.perform p action s = r at h ⊢
  obtain ⟨b', ⟨result, _, _⟩, s'⟩ := r
  obtain rfl : result = .ok () := h
  rfl

theorem performAll_cons_error (h : (b.perform p action s).reply.result = .error f)
    (rest : List Action) :
    p.performAll b (action :: rest) s =
      ((b.perform p action s).build, .error f, (b.perform p action s).state) := by
  rw [performAll]
  generalize b.perform p action s = r at h ⊢
  obtain ⟨b', ⟨result, _, _⟩, s'⟩ := r
  obtain rfl : result = .error f := h
  rfl

theorem performAll_append_of_ok {xs : List Action} (h : p.performAll b xs s = (b', .ok (), s'))
    (ys : List Action) : p.performAll b (xs ++ ys) s = p.performAll b' ys s' := by
  induction xs generalizing b s with
  | nil =>
    obtain ⟨rfl, rfl⟩ : b = b' ∧ s = s' := by simpa [performAll] using h
    rfl
  | cons x xs ih =>
    rw [List.cons_append]
    cases hr : (b.perform p x s).reply.result with
    | ok =>
      rw [performAll_cons_ok hr] at h ⊢
      exact ih h
    | error g =>
      rw [performAll_cons_error hr] at h
      cases h

theorem performAll_append_of_error {xs : List Action}
    (h : p.performAll b xs s = (b', .error f, s')) (ys : List Action) :
    p.performAll b (xs ++ ys) s = (b', .error f, s') := by
  induction xs generalizing b s with
  | nil => cases h
  | cons x xs ih =>
    rw [List.cons_append]
    cases hr : (b.perform p x s).reply.result with
    | ok =>
      rw [performAll_cons_ok hr] at h ⊢
      exact ih h
    | error g =>
      rw [performAll_cons_error hr] at h ⊢
      exact h

/-! What an operation does. -/

theorem untouched_of_change (hmem : action ∈ (buildActions a).dropLast)
    (h : Build.Change p b s action b' s') :
    b'.artifact = b.artifact ∧ b'.request = b.request ∧ s' = s := by
  simp only [buildActions, List.dropLast, List.mem_cons, List.not_mem_nil, or_false] at hmem
  cases h with
  | none | parsed | generated | validated | optimized => exact ⟨rfl, rfl, rfl⟩
  | uncompiled | compiled | released => simp at hmem
  | acted last =>
    rcases hmem with rfl | rfl | rfl | rfl <;> cases last

theorem untouched_of_performAll {actions : List Action}
    (hmem : ∀ action ∈ actions, action ∈ (buildActions a).dropLast) (b : Build) (s : σ) :
    (p.performAll b actions s).1.artifact = b.artifact ∧
      (p.performAll b actions s).1.request = b.request ∧ (p.performAll b actions s).2.2 = s := by
  induction actions generalizing b s with
  | nil => exact ⟨rfl, rfl, rfl⟩
  | cons action rest ih =>
    obtain ⟨hartifact, hrequest, hstate⟩ := untouched_of_change (hmem action List.mem_cons_self)
      (Build.change_perform p b action s)
    cases hr : (b.perform p action s).reply.result with
    | ok =>
      rw [performAll_cons_ok hr]
      obtain ⟨hartifact', hrequest', hstate'⟩ :=
        ih (fun x hx => hmem x (List.mem_cons_of_mem action hx)) (b.perform p action s).build
          (b.perform p action s).state
      exact ⟨hartifact'.trans hartifact, hrequest'.trans hrequest, hstate'.trans hstate⟩
    | error f =>
      rw [performAll_cons_error hr]
      exact ⟨hartifact, hrequest, hstate⟩

/-- How a build comes out, and what it does to the state of the compiler. -/
inductive Built (p : Pipeline σ) (a : Allowance) (request : Request) (s : σ) :
    Build × Except Fault Unit × σ → Prop
  | unprepared {b : Build} {f : Fault} (unheld : b.artifact = none) :
      Built p a request s (b, .error f, s)
  | uncompiled {b : Build} {f g : Fault} {s' : σ} (unheld : b.artifact = none)
      (work : p.compiler.compile a b.module request.strategy s = (.error g, s')) :
      Built p a request s (b, .error f, s')
  | compiled {b : Build} {h : Handle} {s' : σ} (asked : b.request = request)
      (state : b.state = .compiled) (held : b.artifact = some h)
      (work : p.compiler.compile a b.module request.strategy s = (.ok h, s')) :
      Built p a request s (b, .ok (), s')

theorem built (p : Pipeline σ) (a : Allowance) (request : Request) (s : σ) :
    Built p a request s (p.performAll (.start request) (buildActions a) s) := by
  have hsplit : buildActions a = (buildActions a).dropLast ++ [.compile a] := rfl
  obtain ⟨hartifact, hrequest, hstate⟩ := untouched_of_performAll (p := p) (a := a)
    (fun _ h => h) (.start request) s
  rw [hsplit]
  rcases hprepared : p.performAll (.start request) (buildActions a).dropLast s with ⟨b, f | _, s₁⟩
  · rw [performAll_append_of_error hprepared]
    rw [hprepared] at hartifact hstate
    obtain rfl : s₁ = s := hstate
    exact .unprepared hartifact
  · rw [performAll_append_of_ok hprepared]
    rw [hprepared] at hartifact hrequest hstate
    obtain rfl : s₁ = s := hstate
    obtain rfl : b.request = request := hrequest
    have hperform : b.perform p (.compile a) s₁ =
        b.stage "compile" .optimized (Build.compile p a) s₁ := rfl
    rw [Build.stage] at hperform
    by_cases hdue : b.state = .optimized
    · rw [if_neg (not_not_intro hdue), Build.compile] at hperform
      rcases hmade : p.compiler.compile a b.module b.request.strategy s₁ with ⟨g | h, s'⟩
      · rw [hmade] at hperform
        rw [performAll, hperform]
        exact .uncompiled hartifact hmade
      · rw [hmade] at hperform
        rw [performAll, hperform]
        exact .compiled rfl rfl rfl hmade
    · rw [if_pos hdue] at hperform
      rw [performAll, hperform]
      exact .unprepared hartifact

/-- How an operation comes out, and what it does to the state of the compiler. -/
inductive Operated (p : Pipeline σ) (a : Allowance) (request : Request)
    (body : Build → Handle → σ → Reply × σ) (s : σ) : Reply × σ → Prop
  | unprepared {f : Fault}
      (failed : (p.performAll (.start request) (buildActions a) s).2.1 = .error f) :
      Operated p a request body s (.refused f, s)
  | uncompiled {module : Bytes} {f g : Fault} {s' : σ}
      (failed : (p.performAll (.start request) (buildActions a) s).2.1 = .error f)
      (work : p.compiler.compile a module request.strategy s = (.error g, s')) :
      Operated p a request body s (.refused f, s')
  | acted {b : Build} {h : Handle} {s' : σ} (asked : b.request = request)
      (work : p.compiler.compile a b.module request.strategy s = (.ok h, s')) :
      Operated p a request body s
        ((body b h s').1, (p.compiler.close h (body b h s').2).2)

theorem close_of_unheld (h : b.artifact = none) (s : σ) : (b.close p s).state = s := by
  rw [Build.close, h]

theorem operated {last : Action} {body : Build → Handle → σ → Reply × σ}
    (hbody : last.body? p = some body) (a : Allowance) (request : Request) (s : σ) :
    Operated p a request body s (p.operate a request last s) := by
  have hbuilt := p.built a request s
  unfold operate build
  rcases hrun : p.performAll (.start request) (buildActions a) s with ⟨b, f | _, s'⟩
  · rw [hrun] at hbuilt
    have hfailed : (p.performAll (.start request) (buildActions a) s).2.1 = .error f := by rw [hrun]
    cases hbuilt with
    | unprepared unheld =>
      dsimp only
      rw [close_of_unheld unheld]
      exact .unprepared hfailed
    | uncompiled unheld work =>
      dsimp only
      rw [close_of_unheld unheld]
      exact .uncompiled hfailed work
  · rw [hrun] at hbuilt
    cases hbuilt with
    | compiled asked state held work =>
      dsimp only
      rw [Build.perform_of_body hbody state held, Build.close]
      dsimp only
      rw [held]
      exact .acted asked work

end TapeWasm.Pipeline
