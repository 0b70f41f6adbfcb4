import TapeWasm.Bytes
import TapeWasm.Source.Program

/-!
Faults: what went wrong, in which stage of the work, and what caused it. A fault is a tree. Its
leaves are bare messages; a node adds a message in front, joins several faults, or is a stage
fault, which names the stage and the kind of failure.

`Fault.stage?` finds the first stage fault of a tree, depth first, and `Fault.wrap` keeps that one
rather than put a second label on it.
-/
namespace TapeWasm

abbrev Phase := String

namespace Phase
def read : Phase := "read"
def parse : Phase := "parse"
def generate : Phase := "generate"
def validate : Phase := "validate"
def optimize : Phase := "optimize"
def compile : Phase := "compile"
def execute : Phase := "execute"
def serialize : Phase := "serialize"
def load : Phase := "load"
def write : Phase := "write"
def standalone : Phase := "standalone"
def pipeline : Phase := "pipeline"
def config : Phase := "config"
end Phase

abbrev Kind := String

namespace Kind
def io : Kind := "io"
def unsupportedTarget : Kind := "unsupported_target"
def malformedProgram : Kind := "malformed_program"
def validation : Kind := "validation"
def toolMissing : Kind := "tool_missing"
def toolFailed : Kind := "tool_failed"
def compile : Kind := "compile"
def trap : Kind := "trap"
def backendMismatch : Kind := "backend_mismatch"
def unsupported : Kind := "unsupported"
def invalidData : Kind := "invalid_data"
def invalidInput : Kind := "invalid_input"
def invalidState : Kind := "invalid_state"
end Kind

inductive Subject where
  | text (s : String)
  | byte (b : Int)
  | bytes (b : Bytes)
  deriving DecidableEq, Repr

structure Label where
  phase : Phase
  kind : Kind
  file : String := ""
  backend : String := ""
  detail : String := ""
  pos : Option Position := none
  subject : Option Subject := none
  deriving DecidableEq, Repr

inductive Fault where
  | plain (text : String)
  | context (text : String) (cause : Fault)
  | join (members : List Fault)
  | stage (label : Label) (cause : Option Fault)
  deriving Repr, Inhabited

namespace Label

/-- Where it happened: the file, the place in it, or both. -/
def place (l : Label) : String :=
  match l.file, l.pos with
  | "", none => ""
  | file, none => " at " ++ file
  | "", some p => " at " ++ p.text
  | file, some p => " at " ++ file ++ ":" ++ p.text

def message (l : Label) : String :=
  "[" ++ l.phase ++ "] " ++ l.kind ++ l.place ++
    (if l.backend = "" then "" else " (backend " ++ l.backend ++ ")") ++
    (if l.detail = "" then "" else ": " ++ l.detail)

/-- Whether a label answers a question about a phase, and about a kind unless that is left open. -/
def answers (l question : Label) : Bool :=
  l.phase == question.phase && (question.kind == "" || l.kind == question.kind)

end Label

namespace Fault

mutual

def message : Fault → String
  | .plain text => text
  | .context text cause => text ++ ": " ++ cause.message
  | .join members => "\n".intercalate (messages members)
  | .stage label none => label.message
  | .stage label (some cause) => label.message ++ " (caused by: " ++ cause.message ++ ")"

def messages : List Fault → List String
  | [] => []
  | f :: fs => f.message :: messages fs

end

mutual

/-- The labels of a tree, depth first, a fault before its causes. -/
def labels : Fault → List Label
  | .plain _ => []
  | .context _ cause => cause.labels
  | .join members => labelsOf members
  | .stage label none => [label]
  | .stage label (some cause) => label :: cause.labels

def labelsOf : List Fault → List Label
  | [] => []
  | f :: fs => f.labels ++ labelsOf fs

end

mutual

/-- The first stage fault of a tree, depth first. -/
def stage? : Fault → Option Fault
  | .plain _ => none
  | .context _ cause => cause.stage?
  | .join members => stageOf? members
  | .stage label cause => some (.stage label cause)

def stageOf? : List Fault → Option Fault
  | [] => none
  | f :: fs =>
    match f.stage? with
    | some g => some g
    | none => stageOf? fs

end

def label? : Fault → Option Label
  | .stage label _ => some label
  | _ => none

/-- The fault right under this one; a joined fault has none of its own. -/
def cause? : Fault → Option Fault
  | .context _ cause => some cause
  | .stage _ cause => cause
  | _ => none

/-- Whether some label of the tree answers the question that another fault asks. Faults other than
stage faults ask nothing. -/
def matchesLabel (f target : Fault) : Bool :=
  match target.label? with
  | some question => f.labels.any (·.answers question)
  | none => false

/-- The phase of the first stage fault, or the empty name. -/
def stagePhase (f : Fault) : Phase :=
  match f.stage? with
  | some (.stage label _) => label.phase
  | _ => ""

/-- Puts a fault under a stage, unless it already belongs to one. -/
def wrap (phase : Phase) (kind : Kind) (cause : Option Fault) (detail : String) : Fault :=
  match cause.bind stage? with
  | some f => f
  | none => .stage { phase, kind, detail } cause

/-- Names the file of a stage fault that names none. -/
def inFile (name : String) : Fault → Fault
  | .stage label cause =>
    if label.file = "" ∧ name ≠ "" then .stage { label with file := name } cause
    else .stage label cause
  | f => f

end Fault
end TapeWasm
