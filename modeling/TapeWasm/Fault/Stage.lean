import TapeWasm.Fault
import TapeWasm.Text.Character
import TapeWasm.Text.Quoted

/-!
The stage faults that the stages raise, one function each.
-/
namespace TapeWasm.Fault

/-- A file or stream could not be read or written. -/
def io (phase : Phase) (file : String) (cause : Option Fault) : Fault :=
  .stage { phase, kind := Kind.io, file } cause

def unsupportedTarget (target : String) : Fault :=
  .stage
    { phase := Phase.generate
      kind := Kind.unsupportedTarget
      detail := "target " ++ Text.quote target ++ " is not implemented"
      subject := some (.text target) } none

def malformedProgram (pos : Position) (detail : String) : Fault :=
  .stage { phase := Phase.parse, kind := Kind.malformedProgram, pos := some pos, detail } none

def validation (cause : Option Fault) : Fault :=
  .stage
    { phase := Phase.validate
      kind := Kind.validation
      detail := "generated module is malformed" } cause

def toolMissing (tool : String) (cause : Option Fault) : Fault :=
  .stage
    { phase := Phase.optimize, kind := Kind.toolMissing, detail := tool ++ " not found" } cause

/-- A tool gave up; what it complained of is part of the detail. -/
def toolFailed (tool complaint : String) (cause : Option Fault) : Fault :=
  let said := Text.trim complaint
  .stage
    { phase := Phase.optimize
      kind := Kind.toolFailed
      detail := tool ++ " failed" ++ (if said = "" then "" else ": " ++ said) } cause

def compile (backend : String) (cause : Option Fault) : Fault :=
  .stage
    { phase := Phase.compile
      kind := Kind.compile
      backend
      detail := "backend rejected module" } cause

def trap (backend : String) (cause : Option Fault) : Fault :=
  .stage
    { phase := Phase.execute, kind := Kind.trap, backend, detail := "program trapped" } cause

def backendMismatch (wanted got : String) : Fault :=
  .stage
    { phase := Phase.load
      kind := Kind.backendMismatch
      backend := wanted
      detail := "object was compiled for " ++ got
      subject := some (.text got) } none

def unsupported (phase : Phase) (what : String) : Fault :=
  .stage { phase, kind := Kind.unsupported, detail := what } none

def invalidData (phase : Phase) (detail : String) : Fault :=
  .stage { phase, kind := Kind.invalidData, detail } none

def invalidInput (phase : Phase) (detail : String) : Fault :=
  .stage { phase, kind := Kind.invalidInput, detail } none

def invalidState (fromState toState : String) : Fault :=
  .stage
    { phase := Phase.pipeline
      kind := Kind.invalidState
      detail := "cannot move from " ++ fromState ++ " to " ++ toState } none

end TapeWasm.Fault
