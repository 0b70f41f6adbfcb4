import TapeWasm.Fault.Stage
import TapeWasm.Path
import TapeWasm.Text.Character

/-!
Strategies for lowering modules, and the hosts that they are available on. A strategy never changes
what a module does.
-/
namespace TapeWasm

/-- The machine that programs run on, and the version of the runtime there. -/
structure Host where
  system : String := "linux"
  architecture : String := "amd64"
  runtime : String := "v1.8.2"
  deriving DecidableEq, Repr

namespace Host

def platform (h : Host) : String :=
  h.system ++ "/" ++ h.architecture

/-- What stored objects are bound to. -/
def tag (h : Host) : String :=
  "wazero/" ++ h.runtime ++ " " ++ h.platform

/-- Whether there is a compiler to native code for a host. -/
def hasCompiler (h : Host) : Bool :=
  ["amd64", "arm64"].contains h.architecture &&
    ["linux", "darwin", "windows", "freebsd", "netbsd", "dragonfly", "solaris", "illumos"].contains
      h.system

end Host

structure Strategy where
  number : UInt8
  deriving DecidableEq, Repr

/-- What the runtime is told: whether to interpret, how many pages a memory may have, and where to
keep native code. -/
structure RuntimeConfig where
  isInterpreted : Bool
  limitPages? : Option UInt32
  cacheDir? : Option Path
  deriving DecidableEq, Repr

namespace Strategy

/-- Interprets the module. -/
def fast : Strategy := ⟨0⟩

/-- Lowers the module to native code before it runs. -/
def balanced : Strategy := ⟨1⟩

/-- Keeps the native code for later runs too. -/
def optimized : Strategy := ⟨2⟩

def all : List Strategy :=
  [fast, balanced, optimized]

def name (s : Strategy) : String :=
  match s.number with
  | 0 => "fast"
  | 1 => "balanced"
  | 2 => "optimized"
  | n => "strategy(" ++ toString n.toNat ++ ")"

/-- The strategy of a name; case and surrounding white space do not matter. -/
def parse (name : String) : Except Fault Strategy :=
  match Text.lower (Text.trim name) with
  | "fast" => .ok fast
  | "balanced" => .ok balanced
  | "optimized" => .ok optimized
  | _ =>
    .error (.invalidInput Phase.compile
      ("unknown strategy " ++ Text.quote name ++ " (want fast, balanced or optimized)"))

def isNative (s : Strategy) : Bool :=
  s = balanced || s = optimized

def isAvailable (s : Strategy) (h : Host) : Bool :=
  !s.isNative || h.hasCompiler

/-- The next strategy that is available on a host, in the order of `all` and around. -/
def next (s : Strategy) (h : Host) : Strategy :=
  let after := (List.range all.length).filterMap fun i =>
    all[(s.number.toNat + i + 1) % all.length]?
  (after.find? (·.isAvailable h)).getD s

/-- A limit of no pages is not passed on. -/
def runtimeConfig (s : Strategy) (limitPages : UInt32) (cacheDir? : Option Path) : RuntimeConfig where
  isInterpreted := s = fast
  limitPages? := if 0 < limitPages then some limitPages else none
  cacheDir? := if s = optimized then cacheDir? else none

end Strategy
end TapeWasm
