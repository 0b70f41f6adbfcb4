import TapeWasm.Build.Pipeline
import TapeWasm.Build.State

/-!
Builds: one program's way through the stages of a pipeline, then one last action on what was
compiled. `Build.perform` is one call on a build; a call that comes out of order is refused and
changes nothing.
-/
namespace TapeWasm

/-- One program to build. The name stands in faults, if it is not empty. -/
structure Request where
  name : String := ""
  source : Bytes
  strategy : Strategy := .fast
  deriving DecidableEq, Repr

structure Build where
  request : Request
  program : Program := ⟨[], []⟩
  module : Bytes := []
  artifact : Option Handle := none
  /-- The stages done so far. -/
  stages : List String := []
  state : BuildState := .new
  deriving DecidableEq

/-- What a call on a build answers: how it came out, what was written, and the memory that a run
left behind. -/
structure Reply where
  result : Except Fault Unit
  output : Bytes := []
  memory? : Option Wasm.Memory := none

inductive Action where
  | parse
  | generate
  | validate
  | optimize (allowance : Allowance)
  | compile (allowance : Allowance)
  | execute (allowance : Allowance) (input : Bytes)
  | serialize (sink : Sink)
  | write (sink : Sink)
  | standalone
  | close
  deriving DecidableEq, Repr

namespace Action

def name : Action → String
  | parse => "parse"
  | generate => "generate"
  | validate => "validate"
  | optimize _ => "optimize"
  | compile _ => "compile"
  | execute _ _ => "execute"
  | serialize _ => "serialize"
  | write _ => "write"
  | standalone => "standalone"
  | close => "close"

end Action

namespace Reply

def ok : Reply :=
  { result := .ok () }

def refused (f : Fault) : Reply :=
  { result := .error f }

def ofRun (r : RunReport) : Reply :=
  match r.result with
  | .ok memory? => { result := .ok (), output := r.output, memory? }
  | .error f =>
    { result := .error (.wrap Phase.execute Kind.trap (some f) "run failed"), output := r.output }

def ofStored : Except Fault Bytes → Reply
  | .ok output => { result := .ok (), output }
  | .error f => .refused (.wrap Phase.serialize Kind.io (some f) "serialize object")

end Reply

/-- What a call leaves behind: the build, the answer, and the state of the compiler. -/
structure Performed (σ : Type) where
  build : Build
  reply : Reply
  state : σ

namespace Build

variable {σ : Type}

def start (request : Request) : Build where
  request := request

/-- Does a stage that is due in state `due` and leads to the next one. -/
def stage (b : Build) (name : String) (due : BuildState)
    (work : Build → σ → Except Fault Build × σ) (s : σ) : Performed σ :=
  if b.state ≠ due then ⟨b, .refused (.invalidState b.state.name due.next.name), s⟩
  else
    match work b s with
    | (.error f, s') => ⟨b, .refused f, s'⟩
    | (.ok b', s') => ⟨{ b' with state := due.next, stages := b.stages ++ [name] }, .ok, s'⟩

/-- Does the last action on a compiled build. It uses the build up, also when it fails. -/
def finish (b : Build) (name : String) (work : Handle → σ → Reply × σ) (s : σ) : Performed σ :=
  if b.state ≠ .compiled then
    ⟨b, .refused (.invalidState b.state.name BuildState.terminal.name), s⟩
  else
    match b.artifact with
    | none => ⟨b, .refused (.invalidState "closed" BuildState.terminal.name), s⟩
    | some h =>
      let r := work h s
      ⟨{ b with state := .terminal, stages := b.stages ++ [name] }, r.1, r.2⟩

def parse (b : Build) (s : σ) : Except Fault Build × σ :=
  match Program.parse b.request.source with
  | .ok program => (.ok { b with program }, s)
  | .error f => (.error (f.inFile b.request.name), s)

def generate (p : Pipeline σ) (b : Build) (s : σ) : Except Fault Build × σ :=
  match p.generate b.program with
  | .ok module => (.ok { b with module }, s)
  | .error f =>
    (.error ((Fault.wrap Phase.generate Kind.invalidInput (some f) "code generation failed").inFile
      b.request.name), s)

def validate (p : Pipeline σ) (b : Build) (s : σ) : Except Fault Build × σ :=
  match p.validate b.module with
  | .ok () => (.ok b, s)
  | .error f => (.error (.validation (some f)), s)

def optimize (p : Pipeline σ) (a : Allowance) (b : Build) (s : σ) : Except Fault Build × σ :=
  match p.optimizer.apply a b.module with
  | .ok module => (.ok { b with module }, s)
  | .error f =>
    (.error (.wrap Phase.optimize Kind.toolFailed (some f) (p.optimizer.name ++ " failed")), s)

def compile (p : Pipeline σ) (a : Allowance) (b : Build) (s : σ) : Except Fault Build × σ :=
  match p.compiler.compile a b.module b.request.strategy s with
  | (.ok h, s') => (.ok { b with artifact := some h }, s')
  | (.error f, s') =>
    (.error (.wrap Phase.compile Kind.compile (some f)
      ("backend " ++ b.request.strategy.name ++ " failed")), s')

def deliver (b : Build) (sink : Sink) : Reply :=
  match sink.write b.module with
  | .ok output => { result := .ok (), output }
  | .error f => .refused (.io Phase.write b.request.name (some f))

/-- Lets go of the artifact and has it closed, if the build has one. -/
def close (p : Pipeline σ) (b : Build) (s : σ) : Performed σ :=
  match b.artifact with
  | none => ⟨b, .ok, s⟩
  | some h =>
    let r := p.compiler.close h s
    ⟨{ b with artifact := none }, { result := r.1 }, r.2⟩

def perform (p : Pipeline σ) (b : Build) (action : Action) (s : σ) : Performed σ :=
  match action with
  | .parse => b.stage action.name .new parse s
  | .generate => b.stage action.name .parsed (generate p) s
  | .validate => b.stage action.name .generated (validate p) s
  | .optimize a => b.stage action.name .validated (optimize p a) s
  | .compile a => b.stage action.name .optimized (compile p a) s
  | .execute a input =>
    b.finish action.name (fun h s =>
      let r := p.compiler.run h a input s
      (.ofRun r.1, r.2)) s
  | .serialize sink =>
    b.finish action.name (fun h s =>
      let r := p.compiler.serialize h sink s
      (.ofStored r.1, r.2)) s
  | .write sink => b.finish action.name (fun _ s => (b.deliver sink, s)) s
  | .standalone =>
    b.finish action.name (fun _ s =>
      (.refused (.unsupported Phase.standalone "standalone native executables are not implemented"),
        s)) s
  | .close => b.close p s

end Build
end TapeWasm
