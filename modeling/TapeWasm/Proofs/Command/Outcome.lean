import TapeWasm.Command.Line
import TapeWasm.Proofs.Build.Faults

/-!
How commands end. `Ends` lists the endings of a command line and what each leaves behind, and every
line ends in one of them: reading a line only ever leads to a usage, to a misuse or to a job, and a
job puts a pipeline to work once and writes last. The law about codes, messages and files is read off
the list. It holds for every way to read settings, and for every runtime that keeps to the
directories it is told.
-/
namespace TapeWasm.Command

open World (KeptOutside)

/-- The verb that a line names, and the arguments after it. -/
def verb? (args : List String) : Option (Verb × List String) :=
  match parseFlags globalFlags args [] with
  | .ok (_, name :: rest) => (Verb.ofName? name).map fun v => (v, rest)
  | _ => none

/-- The settings of a line: those of the file that it names, or else the default ones, with what the
line puts in place of some. -/
def settings? (parts : Parts) (world : World) (args : List String) : Option Settings :=
  match parseFlags globalFlags args [] with
  | .error _ => none
  | .ok (vs, _) =>
    let path := vs.text globalFlags "config"
    if path = "" then some (overridden .default vs)
    else do
      let source ← (world.read (.ofString path)).toOption
      let s ← (Settings.parse parts.reader source path).toOption
      return overridden s vs

/-- A line that asks for help, and the usage that answers it. -/
inductive Help (args : List String) : String → Prop
  | line (h : parseFlags globalFlags args [] = .error .help) : Help args globalUsage
  | verb {v : Verb} {rest : List String} (s : Settings) (hverb : verb? args = some (v, rest))
      (h : parseFlags (v.flags s) rest [] = .error .help) : Help args (v.usage s)

/-- Whether a verb keeps what the pipeline makes; the others run a program. -/
def Verb.isProducer : Verb → Bool
  | .generate | .compile | .standalone => true
  | .run | .exec | .repl => false

section Endings

variable (parts : Parts) (world : World) (args : List String)

/-- Where native code is kept by the settings of a line. -/
def cacheDir : String :=
  (settings? parts world args).elim "" (·.engine.cacheDir)

/-- All files are as they were, those aside that native code is kept in. -/
def Kept (w : World) : Prop :=
  KeptOutside (Cache.Holds (cacheDir parts world args) world) world w

/-- What a pipeline can answer when a verb has put it to work, and what it may have done. -/
structure Answer (v : Verb) (r : Reply × World) : Prop where
  ofStage {f : Fault} (h : r.1.result = .error f) : f.OfStage
  refused (h : v = .standalone) : ∃ f, r.1.result = .error f
  kept : Kept parts world args r.2

/-- The endings of a line, started over the files of a world. -/
inductive Ends : Outcome → Prop
  | help {usage : String} (h : Help args usage) : Ends { code := 0, messages := usage, world }
  | misused (messages : String) : Ends { code := 2, messages, world }
  | unread {path why : String}
      (h : world.read (.ofString path) = .error why ∨
        world.openInput (.ofString path) = .error why) :
      Ends { code := 1, messages := report (unread path why).message, world }
  /-- The pipeline has failed. What a program wrote before that is shown all the same. -/
  | failed {v : Verb} {rest : List String} {r : Reply × World} {f : Fault} {output : Bytes}
      (hverb : verb? args = some (v, rest)) (hr : Answer parts world args v r)
      (hf : r.1.result = .error f) (houtput : v.isProducer = true → output = []) :
      Ends { code := 1, output, messages := report f.message, world := r.2, replies := [r.1] }
  | unwritten {v : Verb} {r : Reply × World} {path why : String} (hv : Answer parts world args v r)
      (hr : r.1.result = .ok ()) (h : r.2.write (.ofString path) r.1.output = .error why) :
      Ends
        { code := 1
          messages := report (unwritten path why).message
          world := r.2
          replies := [r.1] }
  | shown {v : Verb} {rest : List String} {r : Reply × World} {output : Bytes} (messages : String)
      (hverb : verb? args = some (v, rest)) (hv : Answer parts world args v r)
      (hr : r.1.result = .ok ()) (houtput : output = r.1.output ∨ output = []) :
      Ends { code := 0, output, messages, world := r.2, replies := [r.1] }
  | written {v : Verb} {rest : List String} {r : Reply × World} {path : String} {w : World}
      (messages : String) (hverb : verb? args = some (v, rest)) (hv : Answer parts world args v r)
      (hr : r.1.result = .ok ()) (h : r.2.write (.ofString path) r.1.output = .ok w) :
      Ends { code := 0, messages, world := w, replies := [r.1] }

/-- A script that ends as the line may end. -/
def Leads (input : Bytes) (s : Script) : Prop :=
  Ends parts world args (s.run input { code := 0, world })

end Endings

variable {parts : Parts} {world : World} {args : List String} {input : Bytes}

/-! Doing. -/

theorem Leads.misuse (message : String) : Leads parts world args input (misuse message) :=
  .misused _

theorem Leads.say_misuse (text message : String) :
    Leads parts world args input (.say text (Command.misuse message)) :=
  .misused _

theorem Leads.read {path : String} {next : Except String Bytes → Script}
    (h : Leads parts world args input (next (world.read (.ofString path)))) :
    Leads parts world args input (.read path next) :=
  h

theorem Leads.tools {next : Toolbox → Script}
    (h : Leads parts world args input (next world.toolbox)) :
    Leads parts world args input (.tools next) :=
  h

theorem run_failure (f : Fault) (o : Outcome) (h : o.messages = "") :
    (failure f).run input o = { o with code := 1, messages := report f.message } := by
  simp [failure, Script.run, h]

theorem Leads.unread {path why : String}
    (h : world.read (.ofString path) = .error why ∨
      world.openInput (.ofString path) = .error why) :
    Leads parts world args input (failure (unread path why)) := by
  rw [Leads, run_failure _ _ rfl]
  exact .unread h

theorem Leads.withSource {next : Bytes → Script}
    (hnext : ∀ b, Leads parts world args input (next b)) (path : String) :
    Leads parts world args input (withSource path next) := by
  refine .read ?_
  split
  · exact hnext _
  · rename_i why h
    exact .unread (.inl h)

theorem Leads.withInput {next : Bytes → Script}
    (hnext : ∀ b, Leads parts world args input (next b)) (how : Running) :
    Leads parts world args input (withInput how next) := by
  unfold Command.withInput
  split
  · exact hnext _
  · split
    · exact hnext input
    · rw [Leads, Script.run]
      split
      · exact hnext _
      · rename_i why h
        exact Leads.unread (.inr h)

section Work

variable {v : Verb} {rest : List String} {p : Pipeline Workshop} {s : Settings}

theorem Leads.produce (hverb : verb? args = some (v, rest))
    {build : Bytes → Workshop → Reply × Workshop}
    (hbuild : ∀ source, Answer parts world args v (onFiles (build source) world))
    (path output : String) : Leads parts world args input (produce path output build) := by
  refine .withSource (fun source => ?_) path
  have hr := hbuild source
  rw [Leads, Script.run]
  generalize onFiles (build source) world = r at hr
  dsimp only
  rw [emit]
  -- Writing is the last request on every path, so all that comes before is the pipeline's doing.
  split
  · rename_i f hf
    rw [run_failure _ _ rfl]
    exact .failed hverb hr hf fun _ => rfl
  · rename_i hok
    split
    · exact .shown _ hverb hr hok (.inl rfl)
    · rw [Script.run]
      split
      · rename_i hwrite
        exact .written _ hverb hr hok hwrite
      · rename_i why hwrite
        rw [run_failure _ _ rfl]
        exact .unwritten hr hok hwrite

theorem Leads.execute (hverb : verb? args = some (v, rest)) (hv : v.isProducer = false)
    {work : Allowance → Bytes → Workshop → Reply × Workshop}
    (hwork : ∀ a b, Answer parts world args v (onFiles (work a b) world)) (label : String)
    (how : Running) : Leads parts world args input (execute label how work) := by
  refine .withInput (fun b => ?_) how
  have hr := hwork (allowanceOf how.timeout) b
  rw [Leads, Script.run, Script.run]
  generalize onFiles (work (allowanceOf how.timeout) b) world = r at hr
  dsimp only
  split
  · rename_i f hf
    split
    · rw [run_failure _ _ rfl]
      exact .failed hverb hr hf fun _ => rfl
    · rw [Script.run, run_failure _ _ rfl]
      exact .failed hverb hr hf fun hp => absurd (hv.symm.trans hp) (by decide)
  · rename_i hok
    split
    · exact .shown _ hverb hr hok (.inr rfl)
    · exact .shown _ hverb hr hok (.inl rfl)

/-! Pipelines at work. -/

/-- A pipeline with the engine that settings ask for. -/
def Serves (s : Settings) (backend : Backend) (p : Pipeline Workshop) : Prop :=
  ∃ target o, p = .standard target o (Settings.makeEngine s.engine backend) ∧ p.Known

theorem serves_of_pipelineFor {box : Toolbox} {backend : Backend} {target : String}
    {p' : Pipeline Workshop} (hp : Serves s backend p)
    (h : pipelineFor s p box backend target = .ok p') : Serves s backend p' := by
  unfold pipelineFor at h
  dsimp only at h
  split at h
  · obtain rfl := Except.ok.inj h
    exact hp
  · cases hvalid : ({ s with target := Text.lower target } : Settings).validate with
    | error f =>
      rw [hvalid] at h
      cases h
    | ok =>
      rw [hvalid] at h
      have h : ({ s with target := Text.lower target } : Settings).pipeline box backend = .ok p' := h
      obtain ⟨target, o, heq, hknown⟩ := Settings.pipeline_eq_ok h
      exact ⟨target, o, heq, hknown⟩

theorem kept_of_settings (hs : settings? parts world args = some s) {w : World}
    (h : KeptOutside (Cache.Holds s.engine.cacheDir world) world w) : Kept parts world args w := by
  rw [Kept, cacheDir, hs]
  exact h

variable (hconfined : parts.backend.Confined) (hs : settings? parts world args = some s)
  (hp : Serves s parts.backend p)
include hconfined hs hp

theorem answer_operate {last : Action} {body : Build → Handle → Workshop → Reply × Workshop}
    (hbody : last.body? p = some body)
    (hrefused : v = .standalone → last = .standalone) (a : Allowance) (request : Request) :
    Answer parts world args v (onFiles (p.operate a request last) world) where
  ofStage h := by
    obtain ⟨-, -, -, hknown⟩ := hp
    exact Pipeline.ofStage_of_operate hknown hbody h
  refused hv := by
    obtain rfl := hrefused hv
    exact p.exists_emitAlone_error a request { world }
  kept := by
    obtain ⟨target, o, rfl, -⟩ := hp
    have hengine : (Settings.makeEngine s.engine parts.backend).backend.Confined := hconfined
    exact kept_of_settings hs (Pipeline.kept_operate hengine hbody a request { world })

theorem answer_runStored (a : Allowance) (object : Bytes) (strategy : Strategy) (stdin : Bytes) :
    Answer parts world args .exec (onFiles (p.runStored a object strategy stdin) world) where
  ofStage h := by
    obtain ⟨-, -, -, hknown⟩ := hp
    exact Pipeline.ofStage_of_runStored hknown h
  refused hv := by cases hv
  kept := by
    obtain ⟨target, o, rfl, -⟩ := hp
    have hengine : (Settings.makeEngine s.engine parts.backend).backend.Confined := hconfined
    exact kept_of_settings hs
      (Pipeline.kept_runStored target o hengine a object strategy stdin { world })

omit hconfined hs hp

/-! Reading. -/

theorem Leads.withFlags {flags : List Flag} {usage : String} {line : List String}
    {next : FlagValues → List String → Script}
    (hhelp : parseFlags flags line [] = .error .help → Help args usage)
    (hnext : ∀ vs left, parseFlags flags line [] = .ok (vs, left) →
      Leads parts world args input (next vs left)) :
    Leads parts world args input (withFlags flags usage line next) := by
  unfold Command.withFlags
  split
  · rename_i h
    exact hnext _ _ h
  · rename_i h
    rw [Leads, Script.run, Script.run, String.empty_append]
    exact .help (hhelp h)
  · exact .say_misuse _ _

theorem Leads.withFile (hverb : verb? args = some (v, rest)) (s : Settings)
    {next : FlagValues → Strategy → String → Script}
    (hnext : ∀ vs strategy path, Leads parts world args input (next vs strategy path)) :
    Leads parts world args input (v.withFile s rest next) := by
  refine .withFlags (.verb s hverb) fun vs left _ => ?_
  split
  · split
    · exact .misuse _
    · exact hnext vs _ _
  · exact .say_misuse _ _

theorem Leads.interactive (hverb : verb? args = some (.repl, rest)) (s : Settings) :
    Leads parts world args input (interactive s rest) := by
  refine .withFlags (.verb s hverb) fun vs left _ => ?_
  split
  · exact .misuse _
  · split
    · exact .misuse _
    · exact .withSource (fun _ => .misuse _) _

include hconfined hs hp in
/-- Whatever a verb asks for, its script ends as the line may end. -/
theorem Leads.verbScript (hverb : verb? args = some (v, rest)) (box : Toolbox) :
    Leads parts world args input (v.script s p box parts.backend rest) := by
  cases v with
  | generate =>
    refine .withFile hverb s fun vs strategy path => ?_
    split
    · exact .misuse _
    · rename_i hfor
      have hp' := serves_of_pipelineFor hp hfor
      exact .produce hverb
        (fun _ => answer_operate hconfined hs hp' rfl (fun h => by cases h) _ _) _ _
  | compile =>
    refine .withFile hverb s fun vs strategy path => ?_
    exact .produce hverb (fun _ => answer_operate hconfined hs hp rfl (fun h => by cases h) _ _) _ _
  | standalone =>
    refine .withFile hverb s fun vs strategy path => ?_
    exact .produce hverb (fun _ => answer_operate hconfined hs hp rfl (fun _ => rfl) _ _) _ _
  | run =>
    refine .withFile hverb s fun vs strategy path => .withSource (fun source => ?_) _
    exact .execute hverb rfl
      (fun _ _ => answer_operate hconfined hs hp rfl (fun h => by cases h) _ _) _ _
  | exec =>
    refine .withFile hverb s fun vs strategy path => .withSource (fun object => ?_) _
    exact .execute hverb rfl (fun _ _ => answer_runStored hconfined hs hp _ _ _ _) _ _
  | repl => exact .interactive hverb s

theorem Leads.withSettings (hconfined : parts.backend.Confined)
    (hs : settings? parts world args = some s) (hverb : verb? args = some (v, rest)) :
    Leads parts world args input (withSettings parts v s rest) := by
  unfold Command.withSettings
  split
  · exact .misuse _
  · refine .tools ?_
    split
    · exact .misuse _
    · rename_i hp
      exact .verbScript hconfined hs (Settings.pipeline_eq_ok hp) hverb _

end Work

/-- Every line ends in one of the listed ways. -/
theorem ends_run (hconfined : parts.backend.Confined) (world : World) (args : List String)
    (input : Bytes) : Ends parts world args (run parts world args input) := by
  change Leads parts world args input (script parts args)
  refine .withFlags .line fun vs left hflags => ?_
  split
  · exact .say_misuse _ _
  · rename_i name rest
    split
    · exact .misuse _
    · rename_i v hv
      have hverb : verb? args = some (v, rest) := by simp [verb?, hflags, hv]
      -- Settings come from a file if the line names one, which is read before anything else.
      split
      · rename_i hnone
        exact .withSettings hconfined (by simp [settings?, hflags, hnone]) hverb
      · rename_i hsome
        refine .read ?_
        split
        · exact .misuse _
        · rename_i source hread
          split
          · exact .misuse _
          · rename_i s hparse
            have hs : settings? parts world args = some (overridden s vs) := by
              simp [settings?, hflags, hread, hparse, Except.toOption, if_neg hsome]
            exact .withSettings hconfined hs hverb

/-! The law. -/

section Law

variable (parts world args)

/-- The faults that a command can show at its end: a pipeline has answered with it, or a file could
not be read or written. -/
inductive Raised (o : Outcome) : Fault → Prop
  | answered {r : Reply} {f : Fault} (hr : r ∈ o.replies) (h : r.result = .error f) : Raised o f
  | unread {path why : String}
      (h : world.read (.ofString path) = .error why ∨
        world.openInput (.ofString path) = .error why) : Raised o (unread path why)
  | unwritten {path why : String} {content : Bytes}
      (h : o.world.write (.ofString path) content = .error why) : Raised o (unwritten path why)

/-- What the outcome of a line over the files of a world owes to its users. -/
structure Lawful (o : Outcome) : Prop where
  codes : o.code ∈ [0, 1, 2]
  /-- A line that cannot be used has put nothing to work and written nothing. -/
  misused (h : o.code = 2) : o.replies = [] ∧ o.output = [] ∧ o.world = world
  /-- Work that fails shows a fault that names its stage first. -/
  failed (h : o.code = 1) :
    ∃ label cause, Raised world o (.stage label cause) ∧ label.phase ∈ Phase.stages ∧
      o.messages = report (Fault.stage label cause).message ∧
      ∃ rest, (Fault.stage label cause).message = "[" ++ label.phase ++ "] " ++ rest
  /-- Work that succeeds writes what was made and nothing else. -/
  finished (h : o.code = 0) :
    Help args o.messages ∧ o.output = [] ∧ o.world = world ∨
      ∃ r, o.replies = [r] ∧ r.result = .ok () ∧
        ((o.output = r.output ∨ o.output = []) ∧ Kept parts world args o.world ∨
          o.output = [] ∧ ∃ path w, Kept parts world args w ∧
            w.write (.ofString path) r.output = .ok o.world)
  /-- A verb that produces something leaves no trace if anything fails. -/
  kept {v : Verb} {rest : List String} (hverb : verb? args = some (v, rest))
    (hv : v = .generate ∨ v = .compile ∨ v = .standalone)
    (h : o.code ≠ 0 ∨ ∃ r ∈ o.replies, ∃ f, r.result = .error f) :
    o.code ≠ 0 ∧ o.output = [] ∧ Kept parts world args o.world
  /-- Asking for an executable writes nothing, and succeeds only as a question for help. -/
  standalone {rest : List String} (hverb : verb? args = some (.standalone, rest)) :
    o.output = [] ∧ Kept parts world args o.world ∧ (o.code = 0 → Help args o.messages)

end Law

variable {o : Outcome}

theorem Kept.refl : Kept parts world args world :=
  KeptOutside.refl world

theorem Ends.exists_raised (h : Ends parts world args o) (hcode : o.code = 1) :
    ∃ f, Raised world o f ∧ f.OfStage ∧ o.messages = report f.message := by
  cases h with
  | unread h => exact ⟨_, .unread h, .mk (by decide : Phase.read ∈ Phase.stages), rfl⟩
  | failed _ hr hf => exact ⟨_, .answered List.mem_cons_self hf, hr.ofStage hf, rfl⟩
  | unwritten _ _ h => exact ⟨_, .unwritten h, .mk (by decide : Phase.write ∈ Phase.stages), rfl⟩
  | help | misused | shown | written => simp at hcode

/-- A verb that produces something ends well, or nothing is written. -/
theorem Ends.unchanged (h : Ends parts world args o) {v : Verb} {rest : List String}
    (hverb : verb? args = some (v, rest)) (hv : v.isProducer = true) (hcode : o.code ≠ 0) :
    o.output = [] ∧ Kept parts world args o.world := by
  cases h with
  | misused | unread => exact ⟨rfl, .refl⟩
  | unwritten hr => exact ⟨rfl, hr.kept⟩
  | failed hverb' hr _ houtput =>
    obtain ⟨rfl, -⟩ := Prod.mk.inj (Option.some.inj (hverb.symm.trans hverb'))
    exact ⟨houtput hv, hr.kept⟩
  | help | shown | written => simp at hcode

theorem Ends.code_ne_zero (h : Ends parts world args o) {r : Reply} {f : Fault}
    (hr : r ∈ o.replies) (hf : r.result = .error f) : o.code ≠ 0 := by
  cases h with
  | help => cases hr
  | shown _ _ _ hok | written _ _ _ hok =>
    obtain rfl := List.mem_singleton.mp hr
    rw [hok] at hf
    cases hf
  | misused | unread | failed | unwritten => simp

theorem Ends.help_of_standalone (h : Ends parts world args o) {rest : List String}
    (hverb : verb? args = some (.standalone, rest)) (hcode : o.code = 0) :
    Help args o.messages ∧ o.output = [] ∧ Kept parts world args o.world := by
  cases h with
  | help h => exact ⟨h, rfl, .refl⟩
  | shown _ hverb' hv hok | written _ hverb' hv hok =>
    obtain ⟨rfl, -⟩ := Prod.mk.inj (Option.some.inj (hverb.symm.trans hverb'))
    obtain ⟨f, hf⟩ := hv.refused rfl
    rw [hok] at hf
    cases hf
  | misused | unread | failed | unwritten => simp at hcode

/-- Whatever the line, the input and the files, and however settings are read and modules lowered
and run, the outcome of a command is lawful. -/
theorem run_lawful (hconfined : parts.backend.Confined) (world : World) (args : List String)
    (input : Bytes) : Lawful parts world args (run parts world args input) := by
  have hends := ends_run hconfined world args input
  generalize run parts world args input = o at hends
  constructor
  case codes => cases hends <;> simp
  case misused =>
    intro hcode
    cases hends with
    | misused => exact ⟨rfl, rfl, rfl⟩
    | help | unread | failed | unwritten | shown | written => simp at hcode
  case failed =>
    intro hcode
    obtain ⟨f, hraised, ⟨hphase⟩, hmessages⟩ := hends.exists_raised hcode
    exact ⟨_, _, hraised, hphase, hmessages, Fault.exists_message_of_stage _ _⟩
  case finished =>
    intro hcode
    cases hends with
    | help h => exact .inl ⟨h, rfl, rfl⟩
    | shown _ _ hv hr houtput => exact .inr ⟨_, rfl, hr, .inl ⟨houtput, hv.kept⟩⟩
    | written _ _ hv hr h => exact .inr ⟨_, rfl, hr, .inr ⟨rfl, _, _, hv.kept, h⟩⟩
    | misused | unread | failed | unwritten => simp at hcode
  case kept =>
    intro v rest hverb hv h
    have hproducer : v.isProducer = true := by rcases hv with rfl | rfl | rfl <;> rfl
    have hcode : o.code ≠ 0 := by
      rcases h with hcode | ⟨r, hr, f, hf⟩
      · exact hcode
      · exact hends.code_ne_zero hr hf
    exact ⟨hcode, hends.unchanged hverb hproducer hcode⟩
  case standalone =>
    intro rest hverb
    by_cases hcode : o.code = 0
    · obtain ⟨hhelp, houtput, hkept⟩ := hends.help_of_standalone hverb hcode
      exact ⟨houtput, hkept, fun _ => hhelp⟩
    · obtain ⟨houtput, hkept⟩ := hends.unchanged hverb rfl hcode
      exact ⟨houtput, hkept, fun h => absurd h hcode⟩

/-- The place for native code is taken by a file, so that nothing can be compiled to be kept. -/
theorem run_lawful_taken :
    let world : World :=
      { nodes :=
          [(["work", "p.bf"], .file [43, 46]), (["work", "cache"], .file []),
            (["work", "c.hcl"],
              .file (Bytes.ofString "engine \x7b\n  cache_dir = \"cache\"\n\x7d\n"))] }
    let args :=
      ["-optimizer", "none", "-config", "c.hcl", "compile", "-strategy", "optimized", "p.bf"]
    Backend.standard.Confined ∧ Lawful {} world args (run {} world args []) ∧
      (run {} world args []).code = 1 := by
  intro world args
  have hconfined := Backend.confined_standard
  exact ⟨hconfined, run_lawful hconfined world args [], by decide +kernel⟩

end TapeWasm.Command
