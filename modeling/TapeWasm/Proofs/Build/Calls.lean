import Mathlib.Data.List.Induction
import TapeWasm.Build.Operation

/-!
Calls on a build. `Change` lists all that a call can do to a build and to the state of the compiler,
and what it takes for that; a call that is refused, or whose work fails, does nothing to the build.
Every call may be served by a pipeline of its own, so the work of a stage may come out differently
each time it is tried.
-/
namespace TapeWasm

variable {σ : Type}

/-- One call on a build, with the pipeline that serves it. -/
structure Call (σ : Type) where
  pipeline : Pipeline σ
  action : Action

/-- A call, the build and the state of the compiler before and after it, and the answer. -/
structure Transition (σ : Type) where
  call : Call σ
  before : Build
  found : σ
  after : Build
  reply : Reply
  left : σ

theorem BuildState.rank_le_next (s : BuildState) : s.rank ≤ s.next.rank := by
  cases s <;> decide

namespace Action

/-- The stage that an action does: when it is due, and its work. -/
def stage? (p : Pipeline σ) :
    Action → Option (BuildState × (Build → σ → Except Fault Build × σ))
  | parse => some (.new, Build.parse)
  | generate => some (.parsed, Build.generate p)
  | validate => some (.generated, Build.validate p)
  | optimize a => some (.validated, Build.optimize p a)
  | compile a => some (.optimized, Build.compile p a)
  | execute _ _ | serialize _ | write _ | standalone | close => none

/-- What a last action does with the artifact of a build. -/
def body? (p : Pipeline σ) : Action → Option (Build → Handle → σ → Reply × σ)
  | execute a input =>
    some fun _ h s => (.ofRun (p.compiler.run h a input s).1, (p.compiler.run h a input s).2)
  | serialize sink =>
    some fun _ h s =>
      (.ofStored (p.compiler.serialize h sink s).1, (p.compiler.serialize h sink s).2)
  | write sink => some fun b _ s => (b.deliver sink, s)
  | standalone =>
    some fun _ _ s =>
      (.refused (.unsupported Phase.standalone "standalone native executables are not implemented"),
        s)
  | parse | generate | validate | optimize _ | compile _ | close => none

/-- The state that an action is due in. A build can be closed at any time. -/
def due? : Action → Option BuildState
  | parse => some .new
  | generate => some .parsed
  | validate => some .generated
  | optimize _ => some .validated
  | compile _ => some .optimized
  | execute _ _ | serialize _ | write _ | standalone => some .compiled
  | close => none

variable {p : Pipeline σ}

theorem due?_of_stage? {action : Action} {due : BuildState}
    {work : Build → σ → Except Fault Build × σ} (h : action.stage? p = some (due, work)) :
    action.due? = some due ∧ due.rank < BuildState.compiled.rank := by
  cases action <;> simp only [stage?, Option.some.injEq, Prod.mk.injEq, reduceCtorEq] at h <;>
    obtain ⟨rfl, -⟩ := h <;> exact ⟨rfl, by decide⟩

theorem due?_of_body? {action : Action} {body : Build → Handle → σ → Reply × σ}
    (h : action.body? p = some body) : action.due? = some .compiled := by
  cases action <;> simp only [body?, reduceCtorEq] at h <;> rfl

end Action

namespace Build

/-- It is the turn of an action: its state has come, and the artifact has not been released if the
action works on it. -/
def Admits (b : Build) (action : Action) : Prop :=
  ∀ due, action.due? = some due → b.state = due ∧ (due = .compiled → b.artifact.isSome)

def standing (b : Build) (due : BuildState) : String :=
  if b.state = due then "closed" else b.state.name

variable {p : Pipeline σ} {b b' : Build} {action : Action} {s s' : σ}

theorem perform_of_stage? {due : BuildState} {work : Build → σ → Except Fault Build × σ}
    (h : action.stage? p = some (due, work)) (b : Build) (s : σ) :
    b.perform p action s = b.stage action.name due work s := by
  cases action <;> simp only [Action.stage?, Option.some.injEq, Prod.mk.injEq, reduceCtorEq] at h <;>
    obtain ⟨rfl, rfl⟩ := h <;> rfl

theorem perform_of_body? {body : Build → Handle → σ → Reply × σ} (h : action.body? p = some body)
    (b : Build) (s : σ) : b.perform p action s = b.finish action.name (body b) s := by
  cases action <;> simp only [Action.body?, Option.some.injEq, reduceCtorEq] at h <;>
    subst h <;> rfl

/-- Every action is a stage, a last action, or the release of the build. -/
theorem action_cases (p : Pipeline σ) (action : Action) :
    (∃ due work, action.stage? p = some (due, work)) ∨ (∃ body, action.body? p = some body) ∨
      action = .close := by
  cases action with
  | parse | generate | validate | optimize | compile => exact .inl ⟨_, _, rfl⟩
  | execute | serialize | write | standalone => exact .inr (.inl ⟨_, rfl⟩)
  | close => exact .inr (.inr rfl)

/-- A call out of turn is refused and changes nothing. -/
theorem perform_of_not_admits (h : ¬ b.Admits action) (p : Pipeline σ) (s : σ) :
    ∃ due, action.due? = some due ∧
      b.perform p action s = ⟨b, .refused (.invalidState (b.standing due) due.next.name), s⟩ := by
  rcases action_cases p action with ⟨due, work, hstage⟩ | ⟨body, hbody⟩ | rfl
  · obtain ⟨hdue, hlt⟩ := Action.due?_of_stage? hstage
    have hstate : b.state ≠ due := by
      intro hs
      refine h fun due' hdue' => ?_
      obtain rfl := Option.some.inj (hdue.symm.trans hdue')
      exact ⟨hs, fun hc => absurd (hc ▸ hlt) (Nat.lt_irrefl _)⟩
    refine ⟨due, hdue, ?_⟩
    rw [perform_of_stage? hstage, stage, if_pos hstate, standing, if_neg hstate]
  · have hdue := Action.due?_of_body? hbody
    refine ⟨.compiled, hdue, ?_⟩
    rw [perform_of_body? hbody, finish]
    by_cases hs : b.state = .compiled
    · have hnone : b.artifact = none := by
        cases ha : b.artifact with
        | none => rfl
        | some a =>
          refine absurd (fun due hdue' => ?_) h
          obtain rfl := Option.some.inj (hdue.symm.trans hdue')
          exact ⟨hs, fun _ => by rw [ha]; rfl⟩
      rw [if_neg (not_not_intro hs), hnone, standing, if_pos hs]
      rfl
    · rw [if_pos hs, standing, if_neg hs]
      rfl
  · exact absurd (fun _ hdue => by simp [Action.due?] at hdue) h

/-- A stage whose work fails answers with the fault and does nothing to the build. -/
theorem perform_of_work_error {due : BuildState} {work : Build → σ → Except Fault Build × σ}
    {f : Fault} (hstage : action.stage? p = some (due, work)) (hdue : b.state = due)
    (hwork : work b s = (.error f, s')) : b.perform p action s = ⟨b, .refused f, s'⟩ := by
  rw [perform_of_stage? hstage, stage, if_neg (not_not_intro hdue), hwork]

theorem perform_of_work_ok {due : BuildState} {work : Build → σ → Except Fault Build × σ}
    (hstage : action.stage? p = some (due, work)) (hdue : b.state = due)
    (hwork : work b s = (.ok b', s')) :
    b.perform p action s =
      ⟨{ b' with state := due.next, stages := b.stages ++ [action.name] }, .ok, s'⟩ := by
  rw [perform_of_stage? hstage, stage, if_neg (not_not_intro hdue), hwork]

/-- A last action in its turn uses the build up, whatever its body answers. -/
theorem perform_of_body {body : Build → Handle → σ → Reply × σ} {h : Handle}
    (hbody : action.body? p = some body) (hstate : b.state = .compiled)
    (hheld : b.artifact = some h) (s : σ) :
    b.perform p action s =
      ⟨{ b with state := .terminal, stages := b.stages ++ [action.name] }, (body b h s).1,
        (body b h s).2⟩ := by
  rw [perform_of_body? hbody, finish, if_neg (not_not_intro hstate), hheld]

/-- What a call can do to a build and to the state of the compiler. -/
inductive Change (p : Pipeline σ) (b : Build) (s : σ) : Action → Build → σ → Prop
  | none {action : Action} : Change p b s action b s
  | parsed {program : Program} (due : b.state = .new)
      (work : Program.parse b.request.source = .ok program) :
      Change p b s .parse
        { b with program, state := .parsed, stages := b.stages ++ ["parse"] } s
  | generated {module : Bytes} (due : b.state = .parsed)
      (work : p.generate b.program = .ok module) :
      Change p b s .generate
        { b with module, state := .generated, stages := b.stages ++ ["generate"] } s
  | validated (due : b.state = .generated) (work : p.validate b.module = .ok ()) :
      Change p b s .validate
        { b with state := .validated, stages := b.stages ++ ["validate"] } s
  | optimized {a : Allowance} {module : Bytes} (due : b.state = .validated)
      (work : p.optimizer.apply a b.module = .ok module) :
      Change p b s (.optimize a)
        { b with module, state := .optimized, stages := b.stages ++ ["optimize"] } s
  | uncompiled {a : Allowance} {f : Fault} {s' : σ} (due : b.state = .optimized)
      (work : p.compiler.compile a b.module b.request.strategy s = (.error f, s')) :
      Change p b s (.compile a) b s'
  | compiled {a : Allowance} {h : Handle} {s' : σ} (due : b.state = .optimized)
      (work : p.compiler.compile a b.module b.request.strategy s = (.ok h, s')) :
      Change p b s (.compile a)
        { b with artifact := some h, state := .compiled, stages := b.stages ++ ["compile"] } s'
  | acted {action : Action} {body : Build → Handle → σ → Reply × σ} {h : Handle}
      (last : action.body? p = some body) (due : b.state = .compiled)
      (held : b.artifact = some h) :
      Change p b s action
        { b with state := .terminal, stages := b.stages ++ [action.name] } (body b h s).2
  | released {h : Handle} (held : b.artifact = some h) :
      Change p b s .close { b with artifact := Option.none } (p.compiler.close h s).2

theorem change_of_work {due : BuildState} {work : Build → σ → Except Fault Build × σ}
    (hstage : action.stage? p = some (due, work)) (hdue : b.state = due) (s : σ) :
    Change p b s action (b.perform p action s).build (b.perform p action s).state := by
  rw [perform_of_stage? hstage, stage, if_neg (not_not_intro hdue)]
  cases action with
  | parse =>
    obtain ⟨rfl, rfl⟩ := Prod.mk.inj (Option.some.inj hstage)
    unfold parse
    cases hparse : Program.parse b.request.source with
    | ok => exact .parsed hdue hparse
    | error => exact .none
  | generate =>
    obtain ⟨rfl, rfl⟩ := Prod.mk.inj (Option.some.inj hstage)
    unfold generate
    cases hmodule : p.generate b.program with
    | ok => exact .generated hdue hmodule
    | error => exact .none
  | validate =>
    obtain ⟨rfl, rfl⟩ := Prod.mk.inj (Option.some.inj hstage)
    unfold validate
    cases hvalid : p.validate b.module with
    | ok => exact .validated hdue hvalid
    | error => exact .none
  | optimize a =>
    obtain ⟨rfl, rfl⟩ := Prod.mk.inj (Option.some.inj hstage)
    unfold optimize
    cases hmodule : p.optimizer.apply a b.module with
    | ok => exact .optimized hdue hmodule
    | error => exact .none
  | compile a =>
    obtain ⟨rfl, rfl⟩ := Prod.mk.inj (Option.some.inj hstage)
    unfold compile
    rcases hmade : p.compiler.compile a b.module b.request.strategy s with ⟨f | h, s'⟩
    · exact .uncompiled hdue hmade
    · exact .compiled hdue hmade
  | execute | serialize | write | standalone | close => cases hstage

/-- A call makes one of the changes. -/
theorem change_perform (p : Pipeline σ) (b : Build) (action : Action) (s : σ) :
    Change p b s action (b.perform p action s).build (b.perform p action s).state := by
  by_cases hadmits : b.Admits action
  · rcases action_cases p action with ⟨due, work, hstage⟩ | ⟨body, hbody⟩ | rfl
    · exact change_of_work hstage (hadmits due (Action.due?_of_stage? hstage).1).1 s
    · obtain ⟨hstate, hheld⟩ := hadmits .compiled (Action.due?_of_body? hbody)
      obtain ⟨h, hh⟩ := Option.isSome_iff_exists.mp (hheld rfl)
      rw [perform_of_body hbody hstate hh]
      exact .acted hbody hstate hh
    · rw [perform, close]
      cases hh : b.artifact with
      | none => exact .none
      | some h => exact .released hh
  · obtain ⟨due, -, hperform⟩ := perform_of_not_admits hadmits p s
    rw [hperform]
    exact .none

def afterCalls : Build → List (Call σ) → σ → Build × σ
  | b, [], s => (b, s)
  | b, c :: cs, s =>
    let r := b.perform c.pipeline c.action s
    r.build.afterCalls cs r.state

def transition (b : Build) (c : Call σ) (s : σ) : Transition σ where
  call := c
  before := b
  found := s
  after := (b.perform c.pipeline c.action s).build
  reply := (b.perform c.pipeline c.action s).reply
  left := (b.perform c.pipeline c.action s).state

def history : Build → List (Call σ) → σ → List (Transition σ)
  | _, [], _ => []
  | b, c :: cs, s => b.transition c s :: (b.transition c s).after.history cs (b.transition c s).left

theorem afterCalls_concat (b : Build) (calls : List (Call σ)) (c : Call σ) (s : σ) :
    b.afterCalls (calls ++ [c]) s =
      (((b.afterCalls calls s).1.transition c (b.afterCalls calls s).2).after,
        ((b.afterCalls calls s).1.transition c (b.afterCalls calls s).2).left) := by
  induction calls generalizing b s with
  | nil => rfl
  | cons d calls ih => exact ih _ _

theorem history_concat (b : Build) (calls : List (Call σ)) (c : Call σ) (s : σ) :
    b.history (calls ++ [c]) s =
      b.history calls s ++ [(b.afterCalls calls s).1.transition c (b.afterCalls calls s).2] := by
  induction calls generalizing b s with
  | nil => rfl
  | cons d calls ih => exact congrArg (b.transition d s :: ·) (ih _ _)

/-- What every change keeps, all calls keep. The property may depend on what has happened so far. -/
theorem afterCalls_induction {P : List (Transition σ) → Build → σ → Prop} (start : P [] b s)
    (calls : List (Call σ))
    (change : ∀ past b s, ∀ c ∈ calls, P past b s →
      Change c.pipeline b s c.action (b.transition c s).after (b.transition c s).left →
      P (past ++ [b.transition c s]) (b.transition c s).after (b.transition c s).left) :
    P (b.history calls s) (b.afterCalls calls s).1 (b.afterCalls calls s).2 := by
  induction calls using List.reverseRecOn with
  | nil => exact start
  | append_singleton calls c ih =>
    have hbefore := ih fun past b s d hd => change past b s d (List.mem_append_left [c] hd)
    rw [history_concat, afterCalls_concat]
    exact change _ _ _ c List.mem_concat_self hbefore (change_perform c.pipeline _ c.action _)

/-- What holds of every single call holds of all calls of a history. -/
theorem forall_mem_history {P : Transition σ → Prop} (h : ∀ b c s, P (transition b c s)) (b : Build)
    (calls : List (Call σ)) (s : σ) : ∀ t ∈ b.history calls s, P t := by
  induction calls generalizing b s with
  | nil => simp [history]
  | cons c calls ih =>
    intro t ht
    rcases List.mem_cons.mp ht with rfl | ht
    · exact h b c s
    · exact ih _ _ t ht

end Build
end TapeWasm
