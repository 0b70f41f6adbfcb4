import TapeWasm.Proofs.Build.History
import TapeWasm.Proofs.Build.Operations

/-!
The release of artifacts. Any compiler can be watched: the watched one does the same, and what is
done to each of its artifacts is noted with the artifact. An operation has each artifact that it is
handed closed once, after all use of it, whichever stage or action fails; calls by hand never have
one closed twice.
-/
namespace TapeWasm

/-- What can be done to an artifact. -/
inductive Use where
  | handedOut
  | ran
  | serialized
  | closed
  deriving DecidableEq, Repr

/-- Of an artifact: it is handed out at most once, closed at most once, and nothing follows that. -/
structure Tidy (uses : List Use) : Prop where
  single : uses.count .handedOut ≤ 1
  once : uses.count .closed ≤ uses.count .handedOut
  quiet : ∀ earlier later, uses = earlier ++ .closed :: later → later = []

/-- Moreover, if it was handed out it has been closed. -/
structure Settled (uses : List Use) : Prop extends Tidy uses where
  all : uses.count .handedOut ≤ uses.count .closed

/-- Runs and storing, as opposed to being handed out or closed. -/
def AreActs (uses : List Use) : Prop :=
  ∀ use ∈ uses, use = .ran ∨ use = .serialized

def Action.acts : Action → List Use
  | execute _ _ => [.ran]
  | serialize _ => [.serialized]
  | parse | generate | validate | optimize _ | compile _ | write _ | standalone | close => []

section Uses

variable {uses : List Use}

theorem Action.areActs_acts (action : Action) : AreActs action.acts := by
  intro use huse
  cases action with
  | execute => exact .inl (List.mem_singleton.mp huse)
  | serialize => exact .inr (List.mem_singleton.mp huse)
  | _ => cases huse

theorem AreActs.append {more : List Use} (h : AreActs uses) (h' : AreActs more) :
    AreActs (uses ++ more) := by
  intro use huse
  rcases List.mem_append.mp huse with huse | huse
  · exact h use huse
  · exact h' use huse

theorem AreActs.count_eq_zero (h : AreActs uses) {use : Use}
    (huse : use = .handedOut ∨ use = .closed) : uses.count use = 0 := by
  refine List.count_eq_zero.mpr fun hmem => ?_
  rcases h use hmem with rfl | rfl <;> simp at huse

theorem AreActs.closed_notMem (h : AreActs uses) : .closed ∉ Use.handedOut :: uses := by
  simpa using List.count_eq_zero.mp (h.count_eq_zero (.inr rfl))

theorem settled_nil : Settled [] where
  single := Nat.zero_le 1
  once := Nat.le_refl 0
  quiet _ _ h := by simp at h
  all := Nat.le_refl 0

theorem AreActs.settled (h : AreActs uses) : Settled (.handedOut :: uses ++ [.closed]) where
  single := by simp [h.count_eq_zero]
  once := by simp [h.count_eq_zero]
  quiet earlier later heq := by
    rcases List.append_eq_append_iff.mp heq with ⟨rest, -, hrest⟩ | ⟨rest, hrest, htail⟩
    · simp_all [List.singleton_eq_append_iff]
    · cases rest with
      | nil => simpa using htail
      | cons e rest =>
        obtain ⟨rfl, -⟩ := List.cons.inj htail
        exact absurd (by simp [hrest]) h.closed_notMem
  all := by simp [h.count_eq_zero]

theorem AreActs.tidy (h : AreActs uses) : Tidy (.handedOut :: uses) where
  single := by simp [h.count_eq_zero]
  once := by simp [h.count_eq_zero]
  quiet earlier later heq := absurd (by simp [heq]) h.closed_notMem

end Uses

/-! Watched compilers. -/

variable {σ α : Type}

/-- The state of a compiler, with what has been done to each of its artifacts. -/
structure Watched (σ : Type) where
  inner : σ
  uses : Handle → List Use := fun _ => []

def onlyTo (h : Handle) (uses : List Use) (k : Handle) : List Use :=
  if k = h then uses else []

namespace Watched

def note (s : Watched σ) (inner : σ) (h : Handle) (use : Use) : Watched σ where
  inner := inner
  uses k := if k = h then s.uses k ++ [use] else s.uses k

def noteNew (s : Watched σ) (inner : σ) : Except Fault Handle → Watched σ
  | .ok h => s.note inner h .handedOut
  | .error _ => { s with inner }

def plain (r : α × Watched σ) : α × σ :=
  (r.1, r.2.inner)

variable (s : Watched σ) (inner : σ) (h : Handle) (use : Use)

@[simp] theorem note_inner : (s.note inner h use).inner = inner := rfl

@[simp] theorem noteNew_inner (r : Except Fault Handle) : (s.noteNew inner r).inner = inner := by
  cases r <;> rfl

theorem note_uses_nil (hs : s.uses = fun _ => []) :
    (s.note inner h use).uses = onlyTo h [use] := by
  funext k
  simp [note, onlyTo, hs]

theorem note_uses {uses : List Use} (hs : s.uses = onlyTo h uses) :
    (s.note inner h use).uses = onlyTo h (uses ++ [use]) := by
  funext k
  simp only [note, hs, onlyTo]
  split <;> rfl

end Watched

/-- The compiler that does the same and notes it. -/
def Compiler.watched (c : Compiler σ) : Compiler (Watched σ) where
  compile a module strategy s :=
    let r := c.compile a module strategy s.inner
    (r.1, s.noteNew r.2 r.1)
  load a object strategy s :=
    let r := c.load a object strategy s.inner
    (r.1, s.noteNew r.2 r.1)
  run h a input s :=
    let r := c.run h a input s.inner
    (r.1, s.note r.2 h .ran)
  serialize h sink s :=
    let r := c.serialize h sink s.inner
    (r.1, s.note r.2 h .serialized)
  close h s :=
    let r := c.close h s.inner
    (r.1, s.note r.2 h .closed)

def Pipeline.watched (p : Pipeline σ) : Pipeline (Watched σ) where
  generate := p.generate
  validate := p.validate
  optimizer := p.optimizer
  compiler := p.compiler.watched

def Call.watched (c : Call σ) : Call (Watched σ) where
  pipeline := c.pipeline.watched
  action := c.action

def Performed.plain (r : Performed (Watched σ)) : Performed σ where
  build := r.build
  reply := r.reply
  state := r.state.inner

/-! Nothing else changes under watch. -/

namespace Build

variable {p : Pipeline σ} {b : Build} {s : Watched σ}

theorem stage_watched {name : String} {due : BuildState}
    {work' : Build → Watched σ → Except Fault Build × Watched σ}
    {work : Build → σ → Except Fault Build × σ} (h : Watched.plain (work' b s) = work b s.inner) :
    (b.stage name due work' s).plain = b.stage name due work s.inner := by
  unfold stage
  split
  · rfl
  · rw [← h]
    rcases work' b s with ⟨f | b', s'⟩ <;> rfl

theorem finish_watched {name : String} {work' : Handle → Watched σ → Reply × Watched σ}
    {work : Handle → σ → Reply × σ} (h : ∀ k, Watched.plain (work' k s) = work k s.inner) :
    (b.finish name work' s).plain = b.finish name work s.inner := by
  unfold finish
  split
  · rfl
  · cases b.artifact with
    | none => rfl
    | some k =>
      dsimp only
      rw [← h k]
      rfl

theorem compile_watched (p : Pipeline σ) (a : Allowance) (b : Build) (s : Watched σ) :
    Watched.plain (compile p.watched a b s) = compile p a b s.inner := by
  simp only [compile, Pipeline.watched, Compiler.watched]
  rcases p.compiler.compile a b.module b.request.strategy s.inner with ⟨f | h, s'⟩ <;> rfl

@[simp] theorem close_watched (p : Pipeline σ) (b : Build) (s : Watched σ) :
    (b.close p.watched s).plain = b.close p s.inner := by
  unfold close
  cases b.artifact <;> rfl

theorem perform_watched (p : Pipeline σ) (b : Build) (action : Action) (s : Watched σ) :
    (b.perform p.watched action s).plain = b.perform p action s.inner := by
  cases action with
  | parse =>
    refine stage_watched ?_
    unfold parse
    cases Program.parse b.request.source <;> rfl
  | generate =>
    refine stage_watched ?_
    unfold generate Pipeline.watched
    cases p.generate b.program <;> rfl
  | validate =>
    refine stage_watched ?_
    unfold validate Pipeline.watched
    cases p.validate b.module <;> rfl
  | optimize a =>
    refine stage_watched ?_
    unfold optimize Pipeline.watched
    cases p.optimizer.apply a b.module <;> rfl
  | compile a => exact stage_watched (compile_watched p a b s)
  | execute | serialize | write | standalone =>
    unfold perform
    exact finish_watched fun _ => rfl
  | close => exact close_watched p b s

theorem afterCalls_watched (b : Build) (calls : List (Call σ)) (s : Watched σ) :
    Watched.plain (b.afterCalls (calls.map Call.watched) s) = b.afterCalls calls s.inner := by
  induction calls generalizing b s with
  | nil => rfl
  | cons c calls ih =>
    have hperform := perform_watched c.pipeline b c.action s
    rw [List.map_cons, afterCalls, afterCalls, ← hperform]
    exact ih _ _

end Build

namespace Pipeline

variable {p : Pipeline σ} {a : Allowance} {request : Request} {s : Watched σ}

theorem performAll_watched (p : Pipeline σ) (b : Build) (actions : List Action) (s : Watched σ) :
    let r := p.watched.performAll b actions s
    (r.1, r.2.1, r.2.2.inner) = p.performAll b actions s.inner := by
  induction actions generalizing b s with
  | nil => rfl
  | cons action rest ih =>
    have hperform := Build.perform_watched p b action s
    rw [performAll, performAll, ← hperform]
    generalize b.perform p.watched action s = r
    obtain ⟨b', ⟨result, _, _⟩, s'⟩ := r
    cases result with
    | ok => exact ih b' s'
    | error f => rfl

theorem build_watched (p : Pipeline σ) (a : Allowance) (request : Request) (s : Watched σ) :
    Watched.plain (p.watched.build a request s) = p.build a request s.inner := by
  have hall := p.performAll_watched (.start request) (buildActions a) s
  unfold build
  rw [← hall]
  rcases p.watched.performAll (.start request) (buildActions a) s with ⟨b, f | _, s'⟩
  · exact congrArg (fun r => (_, r.state)) (Build.close_watched p b s')
  · rfl

theorem operate_watched (p : Pipeline σ) (a : Allowance) (request : Request) (last : Action)
    (s : Watched σ) :
    Watched.plain (p.watched.operate a request last s) = p.operate a request last s.inner := by
  have hbuild := p.build_watched a request s
  unfold operate
  rw [← hbuild]
  rcases p.watched.build a request s with ⟨f | b, s'⟩
  · rfl
  · have hperform := Build.perform_watched p b last s'
    dsimp only [Watched.plain]
    rw [← hperform]
    exact congrArg (fun r => (_, r.state)) (Build.close_watched p _ _)

theorem runStored_watched (p : Pipeline σ) (a : Allowance) (object : Bytes) (strategy : Strategy)
    (input : Bytes) (s : Watched σ) :
    Watched.plain (p.watched.runStored a object strategy input s) =
      p.runStored a object strategy input s.inner := by
  simp only [runStored, watched, Compiler.watched]
  rcases p.compiler.load a object strategy s.inner with ⟨f | h, s'⟩ <;> rfl

end Pipeline

/-! What is noted. -/

namespace Pipeline

variable {p : Pipeline σ} {a : Allowance} {module : Bytes} {strategy : Strategy} {h : Handle}
  {f : Fault} {s s' : Watched σ}

theorem uses_of_compile_error
    (hwork : p.watched.compiler.compile a module strategy s = (.error f, s')) :
    s'.uses = s.uses := by
  simp only [watched, Compiler.watched] at hwork
  rcases hmade : p.compiler.compile a module strategy s.inner with ⟨g | h, inner⟩
  · rw [hmade] at hwork
    obtain ⟨-, rfl⟩ := Prod.mk.inj hwork
    rfl
  · rw [hmade] at hwork
    cases hwork

theorem uses_of_compile_ok (hs : s.uses = fun _ => [])
    (hwork : p.watched.compiler.compile a module strategy s = (.ok h, s')) :
    s'.uses = onlyTo h [.handedOut] := by
  simp only [watched, Compiler.watched] at hwork
  rcases hmade : p.compiler.compile a module strategy s.inner with ⟨g | h', inner⟩
  · rw [hmade] at hwork
    cases hwork
  · rw [hmade] at hwork
    obtain ⟨heq, rfl⟩ := Prod.mk.inj hwork
    obtain rfl := Except.ok.inj heq
    exact s.note_uses_nil _ _ _ hs

theorem uses_of_body {action : Action} {body : Build → Handle → Watched σ → Reply × Watched σ}
    (hbody : action.body? p.watched = some body) (b : Build) {uses : List Use}
    (hs : s.uses = onlyTo h uses) : (body b h s).2.uses = onlyTo h (uses ++ action.acts) := by
  cases action with
  | execute | serialize =>
    obtain rfl := Option.some.inj hbody
    exact s.note_uses _ _ _ hs
  | write | standalone =>
    obtain rfl := Option.some.inj hbody
    simpa [Action.acts] using hs
  | parse | generate | validate | optimize | compile | close => cases hbody

theorem uses_of_close {uses : List Use} (hs : s.uses = onlyTo h uses) :
    (p.watched.compiler.close h s).2.uses = onlyTo h (uses ++ [.closed]) :=
  s.note_uses _ _ _ hs

end Pipeline

namespace Build

/-- One artifact at most has something noted. It was handed out once the build is compiled, then it
was used, and it was closed once the build has let go of it. -/
def Noted (b : Build) (uses : Handle → List Use) : Prop :=
  (b.state.rank < BuildState.compiled.rank ∧ b.artifact = none ∧ uses = fun _ => []) ∨
    ∃ h acts, AreActs acts ∧ BuildState.compiled.rank ≤ b.state.rank ∧
      ((b.artifact = some h ∧ uses = onlyTo h (.handedOut :: acts)) ∨
        (b.artifact = none ∧ uses = onlyTo h (.handedOut :: acts ++ [.closed])))

variable {p : Pipeline σ} {b b' : Build} {action : Action} {s s' : Watched σ}

theorem noted_start (request : Request) : (start request).Noted fun _ => [] :=
  .inl ⟨Nat.zero_lt_succ 4, rfl, rfl⟩

/-- A stage before compilation touches neither the artifact nor the compiler. -/
theorem Noted.stage {uses : Handle → List Use} (h : b.Noted uses) {due : BuildState}
    (hdue : b.state = due) (hlt : due.next.rank < BuildState.compiled.rank)
    (hstate : b'.state = due.next) (hartifact : b'.artifact = b.artifact) : b'.Noted uses := by
  rcases h with ⟨-, hnone, hnil⟩ | ⟨-, -, -, hr, -⟩
  · exact .inl ⟨hstate ▸ hlt, hartifact.trans hnone, hnil⟩
  · rw [hdue] at hr
    exact absurd (Nat.le_trans hr due.rank_le_next) (Nat.not_le.mpr hlt)

theorem Noted.change (h : b.Noted s.uses) (hchange : Change p.watched b s action b' s') :
    b'.Noted s'.uses := by
  cases hchange with
  | none => exact h
  | parsed due | generated due | validated due | optimized due => exact h.stage due (by decide) rfl rfl
  | uncompiled due work =>
    rw [Pipeline.uses_of_compile_error work]
    exact h
  | @compiled _ k _ due work =>
    rcases h with ⟨-, -, hnil⟩ | ⟨-, -, -, hr, -⟩
    · exact .inr ⟨k, [], nofun, Nat.le_refl _, .inl ⟨rfl, Pipeline.uses_of_compile_ok hnil work⟩⟩
    · rw [due] at hr
      exact absurd hr (by decide)
  | @acted _ body k last due held =>
    rcases h with ⟨hr, -⟩ | ⟨k', acts, hacts, -, ⟨hheld, hs⟩ | ⟨hnone, -⟩⟩
    · rw [due] at hr
      exact absurd hr (by decide)
    · obtain rfl := Option.some.inj (held.symm.trans hheld)
      exact .inr ⟨k, acts ++ action.acts, hacts.append action.areActs_acts, Nat.le_succ _,
        .inl ⟨held, Pipeline.uses_of_body last b hs⟩⟩
    · cases hnone.symm.trans held
  | @released k held =>
    rcases h with ⟨-, hnone, -⟩ | ⟨k', acts, hacts, hr, ⟨hheld, hs⟩ | ⟨hnone, -⟩⟩
    · cases hnone.symm.trans held
    · obtain rfl := Option.some.inj (held.symm.trans hheld)
      exact .inr ⟨k, acts, hacts, hr, .inr ⟨rfl, Pipeline.uses_of_close hs⟩⟩
    · cases hnone.symm.trans held

theorem noted_afterCalls (request : Request) (calls : List (Call σ)) (s : σ) :
    let r := (start request).afterCalls (calls.map Call.watched) { inner := s }
    r.1.Noted r.2.uses := by
  refine afterCalls_induction (P := fun _ b (s : Watched σ) => b.Noted s.uses) (noted_start request)
    (calls.map Call.watched) ?_
  rintro - b s c hc h hchange
  obtain ⟨d, -, rfl⟩ := List.mem_map.mp hc
  exact h.change hchange

end Build

section OnlyTo

variable {h : Handle} {uses : List Use}

theorem tidy_onlyTo (huses : Tidy uses) (k : Handle) : Tidy (onlyTo h uses k) := by
  unfold onlyTo
  split
  · exact huses
  · exact settled_nil.toTidy

theorem settled_onlyTo (huses : Settled uses) (k : Handle) : Settled (onlyTo h uses k) := by
  unfold onlyTo
  split
  · exact huses
  · exact settled_nil

end OnlyTo

namespace Build

variable {b : Build} {uses : Handle → List Use}

theorem Noted.tidy (h : b.Noted uses) (k : Handle) : Tidy (uses k) := by
  rcases h with ⟨-, -, rfl⟩ | ⟨-, acts, hacts, -, ⟨-, rfl⟩ | ⟨-, rfl⟩⟩
  · exact settled_nil.toTidy
  · exact tidy_onlyTo hacts.tidy k
  · exact tidy_onlyTo hacts.settled.toTidy k

/-- Nothing is left open by a build that has let go of its artifact. -/
theorem Noted.settled (h : b.Noted uses) (hnone : b.artifact = none) (k : Handle) :
    Settled (uses k) := by
  rcases h with ⟨-, -, rfl⟩ | ⟨h, acts, hacts, -, ⟨hheld, -⟩ | ⟨-, rfl⟩⟩
  · exact settled_nil
  · cases hnone.symm.trans hheld
  · exact settled_onlyTo hacts.settled k

theorem artifact_close (p : Pipeline σ) (b : Build) (s : σ) : (b.close p s).build.artifact = none := by
  unfold close
  cases h : b.artifact with
  | none => exact h
  | some => rfl

end Build

/-! Operations. -/

/-- The operations of a pipeline. -/
inductive Operation where
  | emitModule (request : Request) (sink : Sink)
  | emitObject (request : Request) (sink : Sink)
  | emitAlone (request : Request)
  | run (request : Request) (input : Bytes)
  | runStored (object : Bytes) (strategy : Strategy) (input : Bytes)

namespace Operation

def perform (p : Pipeline σ) (a : Allowance) : Operation → σ → Reply × σ
  | emitModule request sink => p.emitModule a request sink
  | emitObject request sink => p.emitObject a request sink
  | emitAlone request => p.emitAlone a request
  | run request input => p.run a request input
  | runStored object strategy input => p.runStored a object strategy input

/-- What an operation does with an artifact between its being handed out and closed. -/
def acts : Operation → List Use
  | emitModule _ _ | emitAlone _ => []
  | emitObject _ _ => [.serialized]
  | run _ _ | runStored _ _ _ => [.ran]

/-- An operation has been refused, and no artifact handed out, or one artifact was handed out, used
and closed. -/
inductive Releases (acts : List Use) : Reply × Watched σ → Prop
  | none {f : Fault} {s : Watched σ} (unused : s.uses = fun _ => []) : Releases acts (.refused f, s)
  | one {reply : Reply} {s : Watched σ} (h : Handle)
      (used : s.uses = onlyTo h (.handedOut :: acts ++ [.closed])) : Releases acts (reply, s)

variable {p : Pipeline σ} {a : Allowance} {s : σ}

theorem releases_operate (last : Action) {body : Build → Handle → Watched σ → Reply × Watched σ}
    (hbody : last.body? p.watched = some body) (a : Allowance) (request : Request) (s : σ) :
    Releases last.acts (p.watched.operate a request last { inner := s }) := by
  have hoperated := Pipeline.operated hbody a request { inner := s }
  generalize p.watched.operate a request last { inner := s } = r at hoperated ⊢
  cases hoperated with
  | unprepared => exact .none rfl
  | uncompiled _ work => exact .none (Pipeline.uses_of_compile_error work)
  | @acted b h s' _ work =>
    exact .one h (Pipeline.uses_of_close (Pipeline.uses_of_body hbody b
      (Pipeline.uses_of_compile_ok rfl work)))

theorem releases_runStored (p : Pipeline σ) (a : Allowance) (object : Bytes) (strategy : Strategy)
    (input : Bytes) (s : σ) :
    Releases [.ran] (p.watched.runStored a object strategy input { inner := s }) := by
  simp only [Pipeline.runStored, Pipeline.watched, Compiler.watched]
  rcases p.compiler.load a object strategy s with ⟨f | h, s'⟩
  · exact .none rfl
  · refine .one h ?_
    have hloaded := ({ inner := s } : Watched σ).note_uses_nil s' h .handedOut rfl
    exact Watched.note_uses _ _ _ _ (Watched.note_uses _ _ _ _ hloaded)

theorem releases_perform (op : Operation) (p : Pipeline σ) (a : Allowance) (s : σ) :
    Releases op.acts (op.perform p.watched a { inner := s }) := by
  cases op with
  | emitModule request sink => exact releases_operate (.write sink) rfl a request s
  | emitObject request sink => exact releases_operate (.serialize sink) rfl a request s
  | emitAlone request => exact releases_operate .standalone rfl a request s
  | run request input => exact releases_operate (.execute a input) rfl a request s
  | runStored object strategy input => exact releases_runStored p a object strategy input s

theorem perform_watched (op : Operation) (p : Pipeline σ) (a : Allowance) (s : Watched σ) :
    Watched.plain (op.perform p.watched a s) = op.perform p a s.inner := by
  cases op with
  | runStored object strategy input => exact p.runStored_watched a object strategy input s
  | emitModule | emitObject | emitAlone | run => exact p.operate_watched a _ _ s

theorem areActs_acts (op : Operation) : AreActs op.acts := by
  cases op <;> simp [acts, AreActs]

theorem Releases.settled {acts : List Use} {r : Reply × Watched σ} (hacts : AreActs acts)
    (h : Releases acts r) (k : Handle) : Settled (r.2.uses k) := by
  cases h with
  | none unused =>
    rw [unused]
    exact settled_nil
  | one _ used =>
    rw [used]
    exact settled_onlyTo hacts.settled k

end Operation

/-- Watch any compiler. Whatever the stages answer, an operation does the same as without, and when
it ends each artifact that was handed out has been closed once, after all use of it; it is refused,
or has had exactly one artifact and done its acts on that. Calls by hand, each served by a pipeline
of its own, do the same as without, close an artifact at most once and do nothing to it after that,
and once the build is closed all is closed. -/
theorem Pipeline.artifacts_released (p : Pipeline σ) (a : Allowance) (s : σ) :
    (∀ op : Operation,
      let r := op.perform p.watched a { inner := s }
      (r.1, r.2.inner) = op.perform p a s ∧ (∀ h, Settled (r.2.uses h)) ∧
        ((∃ f, r.1 = .refused f ∧ r.2.uses = fun _ => []) ∨
          ∃ h, r.2.uses = onlyTo h (.handedOut :: op.acts ++ [.closed]))) ∧
    ∀ request (calls : List (Call σ)),
      let r := (Build.start request).afterCalls (calls.map Call.watched) { inner := s }
      (r.1, r.2.inner) = (Build.start request).afterCalls calls s ∧
        (∀ h, Tidy (r.2.uses h)) ∧
        ∀ h, Settled ((r.1.close p.watched r.2).state.uses h) := by
  refine ⟨fun op => ⟨op.perform_watched p a _, ?_, ?_⟩, fun request calls => ⟨?_, ?_, ?_⟩⟩
  · exact (op.releases_perform p a s).settled op.areActs_acts
  · have hreleases := op.releases_perform p a s
    generalize op.perform p.watched a { inner := s } = r at hreleases ⊢
    cases hreleases with
    | none unused => exact .inl ⟨_, rfl, unused⟩
    | one h used => exact .inr ⟨h, used⟩
  · exact Build.afterCalls_watched _ calls { inner := s }
  · exact (Build.noted_afterCalls request calls s).tidy
  · have hclosed := (Build.noted_afterCalls request calls s).change
      (Build.change_perform p.watched _ .close _)
    exact hclosed.settled (Build.artifact_close _ _ _)

end TapeWasm
