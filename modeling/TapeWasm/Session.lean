import TapeWasm.Build.Operation
import TapeWasm.Tape.Layout
import TapeWasm.Text.Columns
import TapeWasm.Text.Duration

/-!
Interactive sessions: a program and its input are edited in two fields, and runs are started and
come to an end while editing goes on. A run takes with it the program, the input and the strategy
of the moment it was started.

The fields are widgets of a screen, which a session knows nothing of but that they can be written
into and can have the focus.
-/
namespace TapeWasm

/-- A program to run with its input, as they were when the run was started. -/
structure Snippet where
  program : Bytes
  input : Bytes
  strategy : Strategy
  deriving DecidableEq, Repr

/-- How a run came out. Without a run to the end there are no cells to see. -/
structure SnippetResult where
  fault : Option Fault
  output : Bytes
  cells : Option (List UInt32)
  elapsed : Duration := ⟨0⟩
  strategy : Strategy

namespace Snippet

def shownCells : Int := 16

/-- A run is stopped after five seconds, at a microsecond a step. -/
def patience : Allowance := .steps 5000000

/-- Builds and runs the program. How long that took is for a clock to say. -/
def run {σ : Type} (s : Snippet) (p : Pipeline σ) (took : Duration) (state : σ) :
    SnippetResult × σ :=
  let r := p.run patience { name := "repl", source := s.program, strategy := s.strategy } s.input
    state
  ({ fault :=
      match r.1.result with
      | .ok () => none
      | .error f => some f
     output := r.1.output
     cells := r.1.memory?.map fun m => leadingCells m shownCells
     elapsed := took
     strategy := s.strategy }, r.2)

end Snippet

namespace SnippetResult

def cellText (c : UInt32) : String :=
  String.ofList (Text.hexDigits 8 c.toNat)

def render (r : SnippetResult) : String :=
  match r.fault with
  | some f => Text.block f.message ++ "\n"
  | none =>
    "output " ++ Text.quoteBytes r.output ++ " in " ++ r.elapsed.toMicroseconds.text ++
      " (" ++ r.strategy.name ++ ")\ntape  " ++
      " ".intercalate ((r.cells.getD []).map cellText) ++ "\n"

end SnippetResult

/-- A field for text; `μ` are the messages that it takes. -/
structure Widget (μ φ : Type) where
  text : φ → Bytes
  isFocused : φ → Bool
  focus : φ → φ
  blur : φ → φ
  take : φ → μ → φ

/-- What keys make a session do, other keys being for the fields. -/
inductive Control where
  | quit
  | toggle
  | cycle
  | start
  deriving DecidableEq, Repr

def Control.ofKey? : String → Option Control
  | "ctrl+c" => some quit
  | "esc" => some quit
  | "tab" => some toggle
  | "ctrl+s" => some cycle
  | "ctrl+r" => some start
  | _ => none

/-- A screen with two fields. A message may be a key, which then has a name. -/
structure Screen (μ π ι : Type) where
  keyName? : μ → Option String
  program : Widget μ π
  input : Widget μ ι
  openProgram : Bytes → π
  openInput : ι

def Screen.control? {μ π ι : Type} (screen : Screen μ π ι) (m : μ) : Option Control :=
  (screen.keyName? m).bind Control.ofKey?

inductive Focus where
  | program
  | input
  deriving DecidableEq, Repr

structure Session (π ι : Type) where
  program : π
  input : ι
  focus : Focus := .program
  strategy : Strategy
  isRunning : Bool := false
  result : Option SnippetResult := none

/-- What a session asks for when it has taken a message. -/
inductive Demand where
  | nothing
  | quit
  | run (snippet : Snippet)
  deriving DecidableEq, Repr

def Demand.runs : Demand → List Snippet
  | run snippet => [snippet]
  | _ => []

namespace Session

variable {μ π ι σ : Type} (screen : Screen μ π ι)

def start (program : Bytes) (strategy : Strategy) : Session π ι where
  program := screen.program.focus (screen.openProgram program)
  input := screen.openInput
  strategy := strategy

def toggle (s : Session π ι) : Session π ι :=
  match s.focus with
  | .program =>
    { s with
      focus := .input
      program := screen.program.blur s.program
      input := screen.input.focus s.input }
  | .input =>
    { s with
      focus := .program
      input := screen.input.blur s.input
      program := screen.program.focus s.program }

def edit (s : Session π ι) (m : μ) : Session π ι :=
  match s.focus with
  | .program => { s with program := screen.program.take s.program m }
  | .input => { s with input := screen.input.take s.input m }

def snippet (s : Session π ι) : Snippet where
  program := screen.program.text s.program
  input := screen.input.text s.input
  strategy := s.strategy

def receive (host : Host) (s : Session π ι) (m : μ) : Session π ι × Demand :=
  match screen.control? m with
  | some .quit => (s, .quit)
  | some .toggle => (s.toggle screen, .nothing)
  | some .cycle => ({ s with strategy := s.strategy.next host }, .nothing)
  | some .start =>
    if s.isRunning then (s, .nothing)
    else ({ s with isRunning := true }, .run (s.snippet screen))
  | none => (s.edit screen m, .nothing)

def deliver (s : Session π ι) (r : SnippetResult) : Session π ι :=
  { s with isRunning := false, result := some r }

/-- A session and the runs that it has asked for and that have not come to an end. -/
structure Loop (π ι : Type) where
  session : Session π ι
  inFlight : List Snippet := []

/-- What happens to a session: a message, or the end of a run in flight. A run finds the compiler in
some state, and takes its time. -/
inductive Event (μ σ : Type) where
  | message (m : μ)
  | finish (index : Nat) (state : σ) (took : Duration)

/-- One event of a session whose runs go through a pipeline. -/
def Loop.step (host : Host) (p : Pipeline σ) (l : Loop π ι) : Event μ σ → Loop π ι
  | .message m =>
    let r := l.session.receive screen host m
    { session := r.1, inFlight := l.inFlight ++ r.2.runs }
  | .finish i state took =>
    match l.inFlight[i]? with
    | none => l
    | some run =>
      { session := l.session.deliver (run.run p took state).1
        inFlight := l.inFlight.eraseIdx i }

end Session
end TapeWasm
