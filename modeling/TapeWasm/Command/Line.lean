import TapeWasm.Build.Operation
import TapeWasm.Command.Flags
import TapeWasm.Command.Script
import TapeWasm.Settings.Reader
import TapeWasm.Text.Columns

/-!
The command line. Reading it is one thing and doing it another: whatever is wrong with the line or
with the settings ends with code 2 before any stage runs, and whatever goes wrong afterwards is the
fault of a stage and ends with code 1.
-/
namespace TapeWasm.Command

def programName : String := "brainwasm"

/-- What a command leaves to others: reading settings from a document, and lowering and running
modules. -/
structure Parts where
  reader : Settings.DocumentReader := Settings.readDocument
  backend : Backend := .standard

/-- A message as it is shown at the end. -/
def report (message : String) : String :=
  Text.block (programName ++ ": " ++ message) ++ "\n"

/-- Ends a command whose line or settings cannot be used. -/
def misuse (message : String) : Script :=
  .say (report message) (.exit 2)

def failure (f : Fault) : Script :=
  .say (report f.message) (.exit 1)

inductive Verb where
  | generate
  | compile
  | standalone
  | run
  | exec
  | repl
  deriving DecidableEq, Repr

namespace Verb

def all : List Verb :=
  [generate, compile, standalone, run, exec, repl]

def name : Verb → String
  | generate => "generate"
  | compile => "compile"
  | standalone => "standalone"
  | run => "run"
  | exec => "exec"
  | repl => "repl"

def summary : Verb → String
  | generate => "write the optimized module of a program"
  | compile => "write a serialized compiled object"
  | standalone => "package a native executable (not implemented)"
  | run => "compile and execute a program"
  | exec => "execute a serialized compiled object"
  | repl => "edit and run programs interactively"

def ofName? (s : String) : Option Verb :=
  all.find? fun v => v.name = s

def extension : Verb → String
  | generate => ".wasm"
  | compile => ".bwco"
  | _ => ""

/-- What a verb calls its one argument. -/
def argumentName : Verb → String
  | exec => "<object.bwco>"
  | _ => "<program.bf>"

end Verb

def globalFlags : List Flag :=
  [⟨"config", .text "", "Path to an HCL configuration file."⟩,
   ⟨"log-level", .text "", "Log level: debug, info, warn or error."⟩,
   ⟨"log-format", .text "", "Log format: console or json."⟩,
   ⟨"optimizer", .text "", "Optimizer: wasm-opt, peephole or none."⟩]

def Verb.flags (v : Verb) (s : Settings) : List Flag :=
  let strategy : Flag :=
    ⟨"strategy", .text s.engine.strategy, "Backend strategy: fast, balanced or optimized."⟩
  let output : Flag := ⟨"o", .text "", "Output path; - writes to stdout."⟩
  let running : List Flag :=
    [⟨"quiet", .switch, "Discard program output and report the elapsed time."⟩,
     ⟨"timeout", .duration, "Abort execution after this long; 0 means no limit."⟩,
     ⟨"stdin", .text "", "Read program input from this file instead of stdin."⟩]
  match v with
  | .generate =>
    [strategy, output, ⟨"target", .text s.target, "Target environment: wasi or browser."⟩]
  | .compile | .standalone => [strategy, output]
  | .run | .exec => strategy :: running
  | .repl => [⟨"strategy", .text Strategy.fast.name, "Initial backend strategy."⟩]

def padded (width : Nat) (s : String) : String :=
  s ++ String.ofList (List.replicate (width - s.length) ' ')

def globalUsage : String :=
  "Usage:\n  " ++ programName ++ " [options] <command> [args]\n\nCommands:\n" ++
    String.join (Verb.all.map fun v => "  " ++ padded 11 v.name ++ " " ++ v.summary ++ "\n") ++
    "\nOptions:\n" ++ flagsHelp globalFlags

def Verb.usage (v : Verb) (s : Settings) : String :=
  (match v with
    | .repl => "Usage of " ++ v.name ++ ":\n"
    | _ =>
      "Usage:\n  " ++ programName ++ " " ++ v.name ++ " [options] " ++ v.argumentName ++
        "\n\nOptions:\n") ++
    flagsHelp (v.flags s)

/-- Reads flags, or ends the command with the usage. -/
def withFlags (flags : List Flag) (usage : String) (args : List String)
    (next : FlagValues → List String → Script) : Script :=
  match parseFlags flags args [] with
  | .ok (vs, rest) => next vs rest
  | .error .help => .say usage (.exit 0)
  | .error (.wrong message) => .say (message ++ "\n" ++ usage) (misuse message)

structure Running where
  isQuiet : Bool
  timeout : Duration
  inputPath : String
  deriving DecidableEq, Repr

/-- Where the result goes: the path that is asked for, or one made from the input's. -/
def artifactPath (input asked ext : String) : String :=
  if asked ≠ "" then asked else Path.withExtension input ext

/-- How long a run may take, one step standing for a microsecond; without a limit it may go on. -/
def allowanceOf (timeout : Duration) : Allowance :=
  if 0 < timeout.nanoseconds then .steps (timeout.nanoseconds / 1000).toNat else .ample

/-! ## Doing -/

def unread (path why : String) : Fault :=
  .io Phase.read path (some (.plain why))

def unwritten (path why : String) : Fault :=
  .io Phase.write path (some (.plain why))

def withSource (path : String) (next : Bytes → Script) : Script :=
  .read path fun
    | .ok source => next source
    | .error why => failure (unread path why)

/-- Writes what was produced, and only if producing it went well. -/
def emit (path : String) (r : Reply) : Script :=
  match r.result with
  | .error f => failure f
  | .ok () =>
    if path = "-" then .output r.output (.exit 0)
    else
      .write path r.output fun
        | .error why => failure (unwritten path why)
        | .ok () =>
          .say (Text.block ("wrote " ++ path ++ " (" ++ toString r.output.length ++ " bytes)") ++
            "\n") (.exit 0)

/-- The work of a pipeline on files, which starts with no objects. -/
def onFiles (work : Workshop → Reply × Workshop) (w : World) : Reply × World :=
  let r := work { world := w }
  (r.1, r.2.world)

/-- Reads a source, has it built, and writes what was produced. -/
def produce (path output : String) (build : Bytes → Workshop → Reply × Workshop) : Script :=
  withSource path fun source => .work (onFiles (build source)) (emit output)

def withInput (how : Running) (next : Bytes → Script) : Script :=
  if how.isQuiet then next []
  else if how.inputPath = "" then .standardInput next
  else
    .openInput how.inputPath fun
      | .ok input => next input
      | .error why => failure (unread how.inputPath why)

/-- Runs a program and shows what it wrote, or how long a quiet run took. -/
def execute (label : String) (how : Running)
    (work : Allowance → Bytes → Workshop → Reply × Workshop) : Script :=
  withInput how fun input =>
    .clock fun before =>
      .work (onFiles (work (allowanceOf how.timeout) input)) fun r =>
        let ended (next : Script) : Script := if how.isQuiet then next else .output r.output next
        match r.result with
        | .error f => ended (failure f)
        | .ok () =>
          ended <| .clock fun after =>
            if how.isQuiet then
              let took : Duration := ⟨after.nanoseconds - before.nanoseconds⟩
              .say (Text.block (label ++ " finished in " ++ took.toMicroseconds.text) ++ "\n")
                (.exit 0)
            else .exit 0

/-! ## Reading -/

/-- The pipeline for another target, which is made anew if the target differs. -/
def pipelineFor (s : Settings) (p : Pipeline Workshop) (box : Toolbox) (backend : Backend)
    (target : String) : Except Fault (Pipeline Workshop) :=
  let target := Text.lower target
  if target = s.target then .ok p
  else do
    let s' := { s with target }
    s'.validate
    s'.pipeline box backend

def Verb.withFile (v : Verb) (s : Settings) (args : List String)
    (next : FlagValues → Strategy → String → Script) : Script :=
  withFlags (v.flags s) (v.usage s) args fun vs rest =>
    match rest with
    | [path] =>
      match Strategy.parse (vs.text (v.flags s) "strategy") with
      | .error f => misuse f.message
      | .ok strategy => next vs strategy path
    | _ => .say (v.usage s) (misuse (v.name ++ ": expected exactly one input file"))

def Verb.output (v : Verb) (s : Settings) (vs : FlagValues) (path : String) : String :=
  artifactPath path (vs.text (v.flags s) "o") v.extension

def Verb.running (v : Verb) (s : Settings) (vs : FlagValues) : Running where
  isQuiet := vs.switch "quiet"
  timeout := vs.duration "timeout"
  inputPath := vs.text (v.flags s) "stdin"

/-- Reads the line of the interactive verb, which needs a screen that a script does not have. -/
def interactive (s : Settings) (args : List String) : Script :=
  let flags := Verb.repl.flags s
  let needsScreen := misuse "repl needs an interactive terminal"
  withFlags flags (Verb.repl.usage s) args fun vs rest =>
    match Strategy.parse (vs.text flags "strategy") with
    | .error f => misuse f.message
    | .ok _ =>
      match rest with
      | [] => needsScreen
      | path :: _ => withSource path fun _ => needsScreen

/-- The script of a verb, with the pipeline that the settings ask for. -/
def Verb.script (v : Verb) (s : Settings) (p : Pipeline Workshop) (box : Toolbox)
    (backend : Backend) (args : List String) : Script :=
  match v with
  | .generate =>
    v.withFile s args fun vs strategy path =>
      match pipelineFor s p box backend (vs.text (v.flags s) "target") with
      | .error f => misuse f.message
      | .ok p =>
        produce path (v.output s vs path) fun source =>
          p.emitModule .ample { name := path, source, strategy } .takes
  | .compile =>
    v.withFile s args fun vs strategy path =>
      produce path (v.output s vs path) fun source =>
        p.emitObject .ample { name := path, source, strategy } .takes
  | .standalone =>
    v.withFile s args fun vs strategy path =>
      produce path (v.output s vs path) fun source =>
        p.emitAlone .ample { name := path, source, strategy }
  | .run =>
    v.withFile s args fun vs strategy path =>
      withSource path fun source =>
        execute path (v.running s vs) fun a input =>
          p.run a { name := path, source, strategy } input
  | .exec =>
    v.withFile s args fun vs strategy path =>
      withSource path fun object =>
        execute path (v.running s vs) fun a input => p.runStored a object strategy input
  | .repl => interactive s args

/-- The settings with what the line puts in place of some. -/
def overridden (s : Settings) (vs : FlagValues) : Settings :=
  let put (flag base : String) := Settings.given base (Text.lower (vs.text globalFlags flag))
  { s with
    log := { level := put "log-level" s.log.level, format := put "log-format" s.log.format }
    optimizer := { s.optimizer with kind := put "optimizer" s.optimizer.kind } }

def withSettings (parts : Parts) (v : Verb) (s : Settings) (args : List String) : Script :=
  match s.validate with
  | .error f => misuse f.message
  | .ok () =>
    .tools fun box =>
      match s.pipeline box parts.backend with
      | .error f => misuse f.message
      | .ok p => v.script s p box parts.backend args

def script (parts : Parts) (args : List String) : Script :=
  withFlags globalFlags globalUsage args fun vs rest =>
    match rest with
    | [] => .say globalUsage (misuse "missing command")
    | name :: args =>
      match Verb.ofName? name with
      | none => misuse ("unknown command " ++ Text.quote name)
      | some v =>
        match vs.text globalFlags "config" with
        | "" => withSettings parts v (overridden .default vs) args
        | path =>
          .read path fun
            | .error why => misuse (Fault.io Phase.config path (some (.plain why))).message
            | .ok source =>
              match Settings.parse parts.reader source path with
              | .error f => misuse f.message
              | .ok s => withSettings parts v (overridden s vs) args

/-- Runs a command line over files in memory. -/
def run (parts : Parts) (world : World) (args : List String) (input : Bytes) : Outcome :=
  (script parts args).run input { code := 0, world }

end TapeWasm.Command
