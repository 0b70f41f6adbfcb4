import TapeWasm.Build.Pipeline

/-!
Settings: what a file or the command line can choose, its defaults, and which choices are allowed.
-/
namespace TapeWasm

structure OptimizerSettings where
  kind : String := ""
  path : String := ""
  /-- Flags of the tool; `none` leaves the choice to it. -/
  flags : Option (List String) := none
  tempDir : String := ""
  deriving DecidableEq, Repr

structure EngineSettings where
  strategy : String := ""
  cacheDir : String := ""
  memoryLimitPages : UInt32 := 0
  deriving DecidableEq, Repr

structure LogSettings where
  level : String := ""
  format : String := ""
  deriving DecidableEq, Repr

structure Settings where
  target : String := ""
  optimizer : OptimizerSettings := {}
  engine : EngineSettings := {}
  log : LogSettings := {}
  deriving DecidableEq, Repr

namespace Settings

def default : Settings where
  target := "wasi"
  optimizer :=
    { kind := "wasm-opt", path := "wasm-opt", flags := some ToolSetup.defaultFlags, tempDir := "" }
  engine := { strategy := "balanced", cacheDir := "", memoryLimitPages := 0 }
  log := { level := "info", format := "console" }

/-- A text that is given wins over another; the empty text is not given. -/
def given (base s : String) : String :=
  if s = "" then base else s

/-- Settings with those that are given in the place of their own. -/
def withGiven (base s : Settings) : Settings where
  target := given base.target s.target
  optimizer :=
    { kind := given base.optimizer.kind s.optimizer.kind
      path := given base.optimizer.path s.optimizer.path
      flags := s.optimizer.flags.or base.optimizer.flags
      tempDir := given base.optimizer.tempDir s.optimizer.tempDir }
  engine :=
    { strategy := given base.engine.strategy s.engine.strategy
      cacheDir := given base.engine.cacheDir s.engine.cacheDir
      memoryLimitPages :=
        if s.engine.memoryLimitPages = 0 then base.engine.memoryLimitPages
        else s.engine.memoryLimitPages }
  log :=
    { level := given base.log.level s.log.level
      format := given base.log.format s.log.format }

structure Choice where
  field : String
  value : String
  allowed : List String

def Choice.isAllowed (c : Choice) : Bool :=
  c.allowed.contains (Text.lower c.value)

def Choice.fault (c : Choice) : Fault :=
  .stage
    { phase := Phase.config
      kind := Kind.invalidInput
      subject := some (.text c.value)
      detail := c.field ++ ": " ++ Text.quote c.value ++ " is not one of " ++
        ", ".intercalate c.allowed } none

def choices (s : Settings) : List Choice :=
  [⟨"target", s.target, ["wasi", "browser"]⟩,
   ⟨"optimizer.kind", s.optimizer.kind, ["wasm-opt", "peephole", "none"]⟩,
   ⟨"engine.strategy", s.engine.strategy, ["fast", "balanced", "optimized"]⟩,
   ⟨"log.level", s.log.level, ["debug", "info", "warn", "error"]⟩,
   ⟨"log.format", s.log.format, ["console", "json"]⟩]

/-- Accepts settings with allowed choices only. Case does not matter in a choice. -/
def validate (s : Settings) : Except Fault Unit :=
  match s.choices.find? fun c => !c.isAllowed with
  | some c => .error c.fault
  | none =>
    if s.optimizer.kind = "wasm-opt" ∧ s.optimizer.path = "" then
      .error (.invalidInput Phase.config "optimizer.path must be set for wasm-opt")
    else if Wasm.maxPages < s.engine.memoryLimitPages then
      .error (.invalidInput Phase.config
        ("engine.memory_limit_pages " ++ toString s.engine.memoryLimitPages.toNat ++ " exceeds " ++
          toString Wasm.maxPages.toNat))
    else .ok ()

def makeOptimizer (s : OptimizerSettings) (box : Toolbox) : Except Fault Optimizer :=
  Optimizer.ofKind box s.kind { path := s.path, flags := s.flags, tempDir := s.tempDir }

def makeEngine (s : EngineSettings) (backend : Backend) : Engine where
  memoryLimitPages := s.memoryLimitPages
  cacheDir := s.cacheDir
  backend := backend

def pipeline (s : Settings) (box : Toolbox) (backend : Backend) : Except Fault (Pipeline Workshop) :=
  match Target.parse s.target with
  | .error f => .error (.wrap Phase.config Kind.invalidInput (some f) "target")
  | .ok target => do
    let optimizer ← makeOptimizer s.optimizer box
    return .standard target optimizer (makeEngine s.engine backend)

end Settings
end TapeWasm
