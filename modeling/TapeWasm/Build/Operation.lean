import TapeWasm.Build

/-!
Whole operations: a build from start to compiled, one last action, and the release of the build.
-/
namespace TapeWasm.Pipeline

variable {σ : Type}

/-- Performs actions in order, up to the first that fails. -/
def performAll (p : Pipeline σ) : Build → List Action → σ → Build × Except Fault Unit × σ
  | b, [], s => (b, .ok (), s)
  | b, action :: rest, s =>
    let r := b.perform p action s
    match r.reply.result with
    | .ok () => performAll p r.build rest r.state
    | .error f => (r.build, .error f, r.state)

def buildActions (a : Allowance) : List Action :=
  [.parse, .generate, .validate, .optimize a, .compile a]

/-- Builds a program. A build that fails is released. -/
def build (p : Pipeline σ) (a : Allowance) (request : Request) (s : σ) : Except Fault Build × σ :=
  match p.performAll (.start request) (buildActions a) s with
  | (b, .error f, s') => (.error f, (b.close p s').state)
  | (b, .ok (), s') => (.ok b, s')

/-- Builds a program, does the last action, and releases the build in every case. -/
def operate (p : Pipeline σ) (a : Allowance) (request : Request) (last : Action) (s : σ) :
    Reply × σ :=
  match p.build a request s with
  | (.error f, s') => (.refused f, s')
  | (.ok b, s') =>
    let r := b.perform p last s'
    (r.reply, (r.build.close p r.state).state)

def emitModule (p : Pipeline σ) (a : Allowance) (request : Request) (sink : Sink) : σ → Reply × σ :=
  p.operate a request (.write sink)

def emitObject (p : Pipeline σ) (a : Allowance) (request : Request) (sink : Sink) : σ → Reply × σ :=
  p.operate a request (.serialize sink)

/-- Would write an executable, and always fails. -/
def emitAlone (p : Pipeline σ) (a : Allowance) (request : Request) : σ → Reply × σ :=
  p.operate a request .standalone

def run (p : Pipeline σ) (a : Allowance) (request : Request) (input : Bytes) : σ → Reply × σ :=
  p.operate a request (.execute a input)

/-- Loads a stored object, runs it and releases it. -/
def runStored (p : Pipeline σ) (a : Allowance) (object : Bytes) (strategy : Strategy)
    (input : Bytes) (s : σ) : Reply × σ :=
  match p.compiler.load a object strategy s with
  | (.error f, s') => (.refused (.wrap Phase.load Kind.invalidData (some f) "load object"), s')
  | (.ok h, s') =>
    let r := p.compiler.run h a input s'
    (.ofRun r.1, (p.compiler.close h r.2).2)

end TapeWasm.Pipeline

namespace TapeWasm

/-- Runs a program from its text with the optimizer that needs no tool, interpreted. -/
def runSource (a : Allowance) (source input : Bytes) : Reply :=
  ((Pipeline.standard .wasi .peephole {}).run a { source } input {}).1

end TapeWasm
