import TapeWasm.Proofs.Build.Operations
import TapeWasm.Proofs.Engine.Files
import TapeWasm.Proofs.Fault.Wrapping
import TapeWasm.Proofs.Source.Filter
import TapeWasm.Settings

/-!
Faults of whole operations. Stages wrap what they are told, so an operation always fails with the
fault of a stage. The stage is one of `Phase.stages` as long as the parts of the pipeline claim no
other stage for their faults, which holds of all pipelines that settings ask for.
-/
namespace TapeWasm

/-- The stages of the work on a program. Reading the settings is none of them. -/
def Phase.stages : List Phase :=
  [read, parse, generate, validate, optimize, compile, execute, serialize, load, write, standalone,
    pipeline]

namespace Fault

/-- A fault that says first in which stage of the work it happened. -/
inductive OfStage : Fault → Prop
  | mk {label : Label} {cause : Option Fault} (h : label.phase ∈ Phase.stages) :
      OfStage (.stage label cause)

/-- A fault that belongs to a stage of the work, or to no stage yet. -/
def Known (f : Fault) : Prop :=
  ∀ g, f.stage? = some g → g.OfStage

/-- A piece of work that fails with known faults only. -/
def KnownIn {α : Type} (r : Except Fault α) : Prop :=
  ∀ f, r = .error f → f.Known

variable {f : Fault} {α β : Type}

theorem OfStage.known (h : f.OfStage) : f.Known := by
  intro g hg
  cases h with
  | mk h =>
    obtain rfl := Option.some.inj hg
    exact .mk h

theorem OfStage.wrap {phase : Phase} (hphase : phase ∈ Phase.stages) (h : f.Known) (kind : Kind)
    (detail : String) : (wrap phase kind (some f) detail).OfStage := by
  cases hf : f.stage? with
  | some g =>
    rw [wrap_of_stage? _ _ _ hf]
    exact h g hf
  | none =>
    rw [wrap_of_stage?_eq_none _ _ _ hf]
    exact .mk hphase

theorem OfStage.inFile (h : f.OfStage) (name : String) : (f.inFile name).OfStage := by
  cases h with
  | mk h =>
    rw [Fault.inFile]
    split <;> exact .mk h

theorem exists_message_of_stage (label : Label) (cause : Option Fault) :
    ∃ rest, (stage label cause).message = "[" ++ label.phase ++ "] " ++ rest := by
  cases cause <;>
    simp only [message, Label.message, String.append_assoc] <;> exact ⟨_, rfl⟩

theorem KnownIn.ok (x : α) : KnownIn (.ok x) :=
  fun _ h => nomatch h

theorem KnownIn.error (h : f.Known) : KnownIn (.error f : Except Fault α) := by
  intro g hg
  obtain rfl := Except.error.inj hg
  exact h

theorem KnownIn.stage {label : Label} {cause : Option Fault} (h : label.phase ∈ Phase.stages) :
    KnownIn (.error (.stage label cause) : Except Fault α) :=
  .error (OfStage.known (.mk h))

theorem KnownIn.bind {r : Except Fault α} {next : α → Except Fault β} (hr : KnownIn r)
    (hnext : ∀ x, r = .ok x → KnownIn (next x)) : KnownIn (r >>= next) := by
  cases r with
  | ok x => exact hnext x rfl
  | error f => exact .error (hr f rfl)

theorem KnownIn.map {r : Except Fault α} (hr : KnownIn r) (g : α → β) : KnownIn (r.map g) := by
  cases r with
  | ok x => exact .ok (g x)
  | error f => exact .error (hr f rfl)

end Fault

open Fault (KnownIn)

variable {σ : Type}

/-- A pipeline whose parts fail with known faults only. -/
structure Pipeline.Known (p : Pipeline σ) : Prop where
  generate (program : Program) : KnownIn (p.generate program)
  optimize (a : Allowance) (module : Bytes) : KnownIn (p.optimizer.apply a module)
  compile (a : Allowance) (module : Bytes) (strategy : Strategy) (s : σ) :
    KnownIn (p.compiler.compile a module strategy s).1
  load (a : Allowance) (object : Bytes) (strategy : Strategy) (s : σ) :
    KnownIn (p.compiler.load a object strategy s).1
  run (h : Handle) (a : Allowance) (input : Bytes) (s : σ) :
    KnownIn (p.compiler.run h a input s).1.result
  serialize (h : Handle) (sink : Sink) (s : σ) : KnownIn (p.compiler.serialize h sink s).1

/-! Operations of pipelines with known faults. -/

theorem Program.ofStage_of_parse {source : Bytes} {f : Fault}
    (h : Program.parse source = .error f) : f.OfStage := by
  by_cases hbalanced : Balanced ((Program.filter source).symbols.filterMap Symbol.ofByte?)
  · rw [Program.parse_of_balanced hbalanced] at h
    cases h
  · obtain ⟨pos, detail, hparse⟩ := Program.parse_of_not_balanced hbalanced
    rw [hparse] at h
    obtain rfl := Except.error.inj h
    exact .mk (by decide : Phase.parse ∈ Phase.stages)

theorem Reply.ofStage_ofRun {r : RunReport} {f : Fault} (hr : KnownIn r.result)
    (h : (Reply.ofRun r).result = .error f) : f.OfStage := by
  unfold ofRun at h
  split at h
  · cases h
  · rename_i g hg
    obtain rfl := Except.error.inj h
    exact .wrap (by decide) (hr g hg) _ _

theorem Reply.ofStage_ofStored {r : Except Fault Bytes} {f : Fault} (hr : KnownIn r)
    (h : (Reply.ofStored r).result = .error f) : f.OfStage := by
  cases r with
  | ok => cases h
  | error g =>
    obtain rfl := Except.error.inj h
    exact .wrap (by decide) (hr g rfl) _ _

namespace Build

variable {p : Pipeline σ} {b : Build} {action : Action} {f : Fault} {s s' : σ}

theorem ofStage_of_work (hp : p.Known) {due : BuildState}
    {work : Build → σ → Except Fault Build × σ} (hstage : action.stage? p = some (due, work))
    (h : work b s = (.error f, s')) : f.OfStage := by
  cases action with
  | parse =>
    obtain ⟨rfl, rfl⟩ := Prod.mk.inj (Option.some.inj hstage)
    unfold parse at h
    split at h
    · cases h
    · rename_i hf
      obtain rfl := Except.error.inj (Prod.mk.inj h).1
      exact (Program.ofStage_of_parse hf).inFile _
  | generate =>
    obtain ⟨rfl, rfl⟩ := Prod.mk.inj (Option.some.inj hstage)
    unfold generate at h
    split at h
    · cases h
    · rename_i hf
      obtain rfl := Except.error.inj (Prod.mk.inj h).1
      exact (Fault.OfStage.wrap (by decide) (hp.generate _ _ hf) _ _).inFile _
  | validate =>
    obtain ⟨rfl, rfl⟩ := Prod.mk.inj (Option.some.inj hstage)
    unfold validate at h
    split at h
    · cases h
    · obtain rfl := Except.error.inj (Prod.mk.inj h).1
      exact .mk (by decide)
  | optimize a =>
    obtain ⟨rfl, rfl⟩ := Prod.mk.inj (Option.some.inj hstage)
    unfold optimize at h
    split at h
    · cases h
    · rename_i hf
      obtain rfl := Except.error.inj (Prod.mk.inj h).1
      exact .wrap (by decide) (hp.optimize _ _ _ hf) _ _
  | compile a =>
    obtain ⟨rfl, rfl⟩ := Prod.mk.inj (Option.some.inj hstage)
    unfold compile at h
    split at h
    · cases h
    · rename_i hf
      obtain rfl := Except.error.inj (Prod.mk.inj h).1
      exact .wrap (by decide) (hp.compile _ _ _ s _ (congrArg Prod.fst hf)) _ _
  | execute | serialize | write | standalone | close => cases hstage

theorem ofStage_of_perform (hp : p.Known) {due : BuildState}
    {work : Build → σ → Except Fault Build × σ} (hstage : action.stage? p = some (due, work))
    (h : (b.perform p action s).reply.result = .error f) : f.OfStage := by
  rw [perform_of_stage? hstage, stage] at h
  split at h
  · obtain rfl := Except.error.inj h
    exact .mk (by decide : Phase.pipeline ∈ Phase.stages)
  · split at h
    · rename_i hwork
      obtain rfl := Except.error.inj h
      exact ofStage_of_work hp hstage hwork
    · cases h

theorem ofStage_of_body (hp : p.Known) {body : Build → Handle → σ → Reply × σ}
    (hbody : action.body? p = some body) {h : Handle} (hf : (body b h s).1.result = .error f) :
    f.OfStage := by
  cases action with
  | execute a input =>
    obtain rfl := Option.some.inj hbody
    exact Reply.ofStage_ofRun (hp.run h a input s) hf
  | serialize sink =>
    obtain rfl := Option.some.inj hbody
    exact Reply.ofStage_ofStored (hp.serialize h sink s) hf
  | write sink =>
    obtain rfl := Option.some.inj hbody
    simp only [deliver] at hf
    split at hf
    · cases hf
    · obtain rfl := Except.error.inj hf
      exact .mk (by decide : Phase.write ∈ Phase.stages)
  | standalone =>
    obtain rfl := Option.some.inj hbody
    obtain rfl := Except.error.inj hf
    exact .mk (by decide)
  | parse | generate | validate | optimize | compile | close => cases hbody

end Build

namespace Pipeline

variable {p : Pipeline σ} {a : Allowance} {f : Fault} {s : σ}

theorem exists_stage?_of_mem_buildActions {action : Action} (h : action ∈ buildActions a) :
    ∃ due work, action.stage? p = some (due, work) := by
  simp only [buildActions, List.mem_cons, List.not_mem_nil, or_false] at h
  rcases h with rfl | rfl | rfl | rfl | rfl <;> exact ⟨_, _, rfl⟩

theorem ofStage_of_performAll (hp : p.Known) {actions : List Action} {b : Build}
    (hstages : ∀ action ∈ actions, ∃ due work, action.stage? p = some (due, work))
    (h : (p.performAll b actions s).2.1 = .error f) : f.OfStage := by
  induction actions generalizing b s with
  | nil => cases h
  | cons action rest ih =>
    obtain ⟨due, work, hstage⟩ := hstages action List.mem_cons_self
    cases hr : (b.perform p action s).reply.result with
    | ok =>
      rw [performAll_cons_ok hr] at h
      exact ih (fun x hx => hstages x (List.mem_cons_of_mem action hx)) h
    | error g =>
      rw [performAll_cons_error hr] at h
      obtain rfl := Except.error.inj h
      exact Build.ofStage_of_perform hp hstage hr

/-- An operation fails with the fault of a stage. -/
theorem ofStage_of_operate (hp : p.Known) {request : Request} {last : Action}
    {body : Build → Handle → σ → Reply × σ} (hbody : last.body? p = some body)
    (h : (p.operate a request last s).1.result = .error f) : f.OfStage := by
  have hoperated := operated hbody a request s
  generalize p.operate a request last s = r at hoperated h
  cases hoperated with
  | unprepared failed | uncompiled failed =>
    obtain rfl := Except.error.inj h
    exact ofStage_of_performAll hp (fun _ => exists_stage?_of_mem_buildActions) failed
  | acted => exact Build.ofStage_of_body hp hbody h

theorem ofStage_of_runStored (hp : p.Known) {object : Bytes} {strategy : Strategy} {input : Bytes}
    (h : (p.runStored a object strategy input s).1.result = .error f) : f.OfStage := by
  rw [runStored] at h
  split at h
  · rename_i hf
    obtain rfl := Except.error.inj h
    exact .wrap (by decide) (hp.load a object strategy s _ (congrArg Prod.fst hf)) _ _
  · exact Reply.ofStage_ofRun (hp.run _ a input _) h

/-- There is no way to make an executable. -/
theorem exists_emitAlone_error (p : Pipeline σ) (a : Allowance) (request : Request) (s : σ) :
    ∃ f, (p.emitAlone a request s).1.result = .error f := by
  have hoperated := operated (rfl : Action.standalone.body? p = some _) a request s
  rw [emitAlone]
  generalize p.operate a request .standalone s = r at hoperated ⊢
  cases hoperated with
  | unprepared | uncompiled | acted => exact ⟨_, rfl⟩

end Pipeline

/-! Pipelines that settings ask for. -/

theorem Emit.knownIn_generate (p : Program) (target : Target) :
    KnownIn (Emit.generate p target) := by
  refine .bind ?_ fun _ _ => .ok _
  unfold build
  split
  · split
    · rename_i f _
      cases f with
      | bracket => exact .stage (by decide : Phase.parse ∈ Phase.stages)
      | foreign => exact .stage (by decide : Phase.generate ∈ Phase.stages)
    · exact .ok _
  · exact .stage (by decide : Phase.generate ∈ Phase.stages)

namespace Optimizer

theorem knownIn_condenseBodies (stop : Option Interrupt) (bodies : List Wasm.Body) (n : Nat) :
    KnownIn (Peephole.condenseBodies stop bodies n) := by
  have hoptimize : Phase.optimize ∈ Phase.stages := by decide
  induction bodies generalizing n with
  | nil => exact .ok _
  | cons b bs ih =>
    cases stop with
    | some => exact .stage hoptimize
    | none =>
      rw [Peephole.condenseBodies]
      split
      · exact .stage hoptimize
      · exact .bind (ih _) fun _ _ => .ok _

theorem knownIn_peephole (a : Allowance) (module : Bytes) : KnownIn (peephole.apply a module) := by
  change KnownIn (Peephole.optimize _ _)
  unfold Peephole.optimize
  split
  · exact .stage (by decide : Phase.optimize ∈ Phase.stages)
  · exact .bind (knownIn_condenseBodies _ _ _) fun _ _ => .ok _

theorem knownIn_tool (box : Toolbox) (setup : ToolSetup) (a : Allowance) (module : Bytes) :
    KnownIn ((tool box setup).apply a module) := by
  have hoptimize : Phase.optimize ∈ Phase.stages := by decide
  change KnownIn (setup.optimize box a module)
  unfold ToolSetup.optimize
  split
  · exact .stage hoptimize
  · refine .bind ?_ fun _ _ => .bind ?_ fun _ _ => ?_
    case refine_1 | refine_2 =>
      dsimp only
      split
      · exact .ok _
      · exact .stage hoptimize
    split
    · exact .stage hoptimize
    · dsimp only
      split
      · exact .stage hoptimize
      · split
        · exact .stage hoptimize
        · exact .stage hoptimize
        · exact .ok _

theorem knownIn_of_ofKind {box : Toolbox} {kind : String} {setup : ToolSetup} {o : Optimizer}
    (h : ofKind box kind setup = .ok o) (a : Allowance) (module : Bytes) :
    KnownIn (o.apply a module) := by
  unfold ofKind at h
  split at h
  · obtain rfl := Except.ok.inj h
    exact knownIn_tool box setup a module
  · obtain rfl := Except.ok.inj h
    exact knownIn_tool box setup a module
  · obtain rfl := Except.ok.inj h
    exact knownIn_peephole a module
  · obtain rfl := Except.ok.inj h
    exact .ok module
  · cases h

end Optimizer

/-! Engines. -/

namespace FileWork

variable {α β : Type}

/-- Work on files that fails with known faults only. -/
def Knows (x : FileWork α) : Prop :=
  ∀ w, KnownIn (x w).1

theorem Knows.pure (a : α) : Knows (Pure.pure a) :=
  fun _ => .ok a

theorem Knows.bind {x : FileWork α} {f : α → FileWork β} (hx : x.Knows) (hf : ∀ a, (f a).Knows) :
    (x >>= f).Knows := by
  intro w
  have hfirst := hx w
  rw [bind_apply]
  generalize x w = r at hfirst ⊢
  obtain ⟨e | a, w₁⟩ := r
  · exact .error (hfirst e rfl)
  · exact hf a w₁

theorem Knows.attempt (operation : World → Except String World) {fault : String → Fault}
    (h : ∀ why, (fault why).OfStage) : (attempt operation fault).Knows := by
  intro w
  unfold FileWork.attempt
  split
  · exact .ok ()
  · exact .error (h _).known

theorem Knows.orElseUndo {x : FileWork α} (h : x.Knows) (undo : World → World) :
    (x.orElseUndo undo).Knows := by
  intro w
  have hx := h w
  unfold FileWork.orElseUndo
  split <;> rename_i hrun <;> rw [hrun] at hx <;> exact hx

end FileWork

namespace Cache

theorem knows_make (root : String) (digest : Bytes) : (make root digest).Knows := by
  unfold make
  split
  · intro w
    dsimp only
    split
    · exact .ok _
    · exact .stage (by decide : Phase.compile ∈ Phase.stages)
  · refine .bind (.attempt _ fun why => ?_) fun _ => .pure _
    exact .mk (by decide : Phase.compile ∈ Phase.stages)

theorem knows_restoreFile (c : Cache) (name : String) (data : Bytes) :
    (c.restoreFile name data).Knows := by
  have hload : Phase.load ∈ Phase.stages := by decide
  unfold restoreFile
  dsimp only
  split
  · exact fun _ => .stage hload
  · refine .bind (fun w => .ok w) fun w => ?_
    split
    · exact .pure ()
    · exact .bind (.attempt _ fun _ => .mk hload) fun _ => .attempt _ fun _ => .mk hload

theorem knows_restore (c : Cache) (files : List (String × Bytes)) : (c.restore files).Knows := by
  induction files with
  | nil => exact .pure ()
  | cons file rest ih => exact .bind (c.knows_restoreFile file.1 file.2) fun _ => ih

theorem knownIn_collect (c : Cache) (w : World) : KnownIn (c.collect w) := by
  unfold collect
  split
  · exact .ok _
  · exact .stage (by decide : Phase.serialize ∈ Phase.stages)

end Cache

namespace Engine

variable (e : Engine)

theorem knows_openCache (c : Cache) : (e.openCache c).Knows := by
  intro w
  unfold Engine.openCache
  split
  · exact .ok ()
  · exact .stage (by decide : Phase.compile ∈ Phase.stages)

theorem knows_lower (bytes : Bytes) (s : Strategy) (cache? : Option Cache) :
    (e.lower bytes s cache?).Knows := by
  have hcompile : Phase.compile ∈ Phase.stages := by decide
  intro w
  unfold Engine.lower
  split
  · exact .ok _
  · exact .stage hcompile
  · exact .stage hcompile

theorem knows_make (bytes : Bytes) (s : Strategy) (files : List (String × Bytes)) :
    (e.make bytes s files).Knows := by
  unfold make
  split
  · refine .bind (Cache.knows_make _ _) fun c => .orElseUndo ?_ _
    exact .bind (c.knows_restore files) fun _ =>
      .bind (e.knows_openCache c) fun _ => e.knows_lower bytes s _
  · exact e.knows_lower bytes s _

theorem knows_compile (bytes : Bytes) (s : Strategy) : (e.compile bytes s).Knows := by
  intro w
  unfold compile
  split
  · exact e.knows_make bytes s [] w
  · exact .stage (by decide : Phase.compile ∈ Phase.stages)

theorem knownIn_decode (b : Bytes) : KnownIn (Envelope.decode b) := by
  have hload : Phase.load ∈ Phase.stages := by decide
  unfold Envelope.decode
  dsimp only
  split
  · exact .stage hload
  · split
    · exact .stage hload
    · split
      · exact .stage hload
      · split
        · exact .stage hload
        · exact .ok _

theorem knows_loadEnvelope (v : Envelope) (s : Strategy) : (e.loadEnvelope v s).Knows := by
  have hload : Phase.load ∈ Phase.stages := by decide
  intro w
  unfold loadEnvelope
  split
  · exact .stage hload
  · split
    · exact .stage hload
    · split
      · exact .stage hload
      · split
        · exact e.knows_make _ s _ w
        · exact .stage hload

theorem knows_load (bytes : Bytes) (s : Strategy) : (e.load bytes s).Knows := by
  intro w
  have hdecode := knownIn_decode bytes
  unfold load
  split
  · exact e.knows_loadEnvelope _ s w
  · rename_i f hf
    exact .error (hdecode f hf)

end Engine

namespace Object

theorem knownIn_run (o : Object) (b : Backend) (a : Allowance) (input : Bytes) :
    KnownIn (o.run b a input).result := by
  have hexecute : Phase.execute ∈ Phase.stages := by decide
  unfold run
  split
  · exact .stage hexecute
  · split
    · exact .stage hexecute
    · exact .stage hexecute
    · exact .stage hexecute
    · exact .ok _
    · split
      · exact .ok _
      · exact .stage hexecute

theorem knownIn_serialize (o : Object) (sink : Sink) (w : World) : KnownIn (o.serialize sink w) := by
  have hserialize : Phase.serialize ∈ Phase.stages := by decide
  unfold serialize
  split
  · exact .stage hserialize
  · refine .bind ?_ fun files _ => ?_
    · unfold Object.files
      split
      · exact Cache.knownIn_collect _ w
      · exact .ok _
    · split
      · exact .ok _
      · exact .stage hserialize

end Object

theorem Workshop.unknownObject_known : unknownObject.Known :=
  fun _ h => nomatch h

theorem Workshop.knownIn_keep (shop : Workshop) {r : Except Fault Object × World}
    (h : KnownIn r.1) : KnownIn (shop.keep r).1 := by
  obtain ⟨f | o, w⟩ := r
  · exact .error (h f rfl)
  · exact .ok _

theorem Pipeline.known_standard (target : Target) {o : Optimizer} (e : Engine)
    (ho : ∀ a module, KnownIn (o.apply a module)) : (standard target o e).Known where
  generate p := Emit.knownIn_generate p target
  optimize := ho
  compile _ module s shop := shop.knownIn_keep (e.knows_compile module s shop.world)
  load _ object s shop := shop.knownIn_keep (e.knows_load object s shop.world)
  run h a input shop := by
    simp only [standard, Compiler.ofEngine]
    split
    · exact Object.knownIn_run _ _ a input
    · exact .error Workshop.unknownObject_known
  serialize h sink shop := by
    simp only [standard, Compiler.ofEngine]
    split
    · exact Object.knownIn_serialize _ sink _
    · exact .error Workshop.unknownObject_known

/-- A pipeline that settings ask for is one of an engine that works as they say. -/
theorem Settings.pipeline_eq_ok {s : Settings} {box : Toolbox} {backend : Backend}
    {p : Pipeline Workshop} (h : s.pipeline box backend = .ok p) :
    ∃ target o, p = .standard target o (makeEngine s.engine backend) ∧ p.Known := by
  unfold pipeline at h
  split at h
  · cases h
  · rename_i target _
    cases hoptimizer : makeOptimizer s.optimizer box with
    | error f =>
      rw [hoptimizer] at h
      cases h
    | ok o =>
      rw [hoptimizer] at h
      obtain rfl := Except.ok.inj h
      exact ⟨target, o, rfl,
        Pipeline.known_standard target _ (Optimizer.knownIn_of_ofKind hoptimizer)⟩

end TapeWasm
