import TapeWasm.Engine.Instance
import TapeWasm.Wasm.Validate
import TapeWasm.World

/-!
Runtimes that modules are lowered and run by. What a runtime does is its own affair; an engine only
tells it what to lower, and in which directory it may keep native code.
-/
namespace TapeWasm

open Wasm

inductive Lowering where
  | done (m : Module)
  | refused (why : String)
  | panicked (why : String)

structure Backend where
  /-- Prepares a directory for native code. -/
  openCache : Path → World → Except String Unit × World
  lower : RuntimeConfig → Bytes → World → Lowering × World
  run : Module → Allowance → Bytes → GuestRun
  /-- What is said when a runtime is closed, and when the native code is. -/
  closeComplaint? : Option String := none
  cacheComplaint? : Option String := none

namespace Backend

/-- The size of some pages, in the largest unit that it is at least one of. -/
def pagesText (pages : Nat) : String :=
  let k := pages * 64
  if k < 1024 then toString k ++ " Ki"
  else if k / 1024 < 1024 then toString (k / 1024) ++ " Mi"
  else if k / 1024 / 1024 < 1024 then toString (k / 1024 / 1024) ++ " Gi"
  else toString (k / 1024 / 1024 / 1024) ++ " Ti"

/-- The complaint about a module whose memory starts over the limit. -/
def memoryComplaint? (limit : UInt32) (m : Module) : Option String :=
  (m.memories.find? fun l => limit < l.min).map fun l =>
    let shown (n : UInt32) := toString n.toNat ++ " pages (" ++ pagesText n.toNat ++ ")"
    "section memory: min " ++ shown l.min ++ " over limit of " ++ shown limit

/-- The module in some bytes, or why it cannot be lowered. -/
def accept (limit : UInt32) (bytes : Bytes) : Except String Module :=
  if bytes.take 4 ≠ magic then .error "invalid magic number"
  else if (bytes.drop 4).take 4 ≠ version then .error "invalid version header"
  else
    match Module.decode bytes with
    | .error f => .error f.message
    | .ok m =>
      match memoryComplaint? limit m with
      | some complaint => .error complaint
      | none =>
        match m.checkStructure with
        | .error f => .error f.message
        | .ok () =>
          match m.checkBodies with
          | .error f => .error f.message
          | .ok () => .ok m

def lowering (c : RuntimeConfig) (bytes : Bytes) : Lowering :=
  let limit := c.limitPages?.getD maxPages
  if maxPages < limit then
    .panicked ("memoryLimitPages invalid: " ++ toString limit.toNat ++ " > " ++
      toString maxPages.toNat)
  else
    match accept limit bytes with
    | .ok m => .done m
    | .error why => .refused why

/-- The runtime that takes every valid module, runs it step by step, and keeps nothing. -/
def standard : Backend where
  openCache _ w := (.ok (), w)
  lower c bytes w := (lowering c bytes, w)
  run := GuestRun.ofModule

end Backend
end TapeWasm
