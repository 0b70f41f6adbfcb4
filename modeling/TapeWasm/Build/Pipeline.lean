import TapeWasm.Emit.Module
import TapeWasm.Engine.Object
import TapeWasm.Optimizer

/-!
Pipelines: what does the work of each stage of a build. Nothing of a build is kept here, so one
pipeline serves any number of builds. Compiled artifacts live with the compiler, in its state; a
build holds no more than a handle.
-/
namespace TapeWasm

/-- What stands for an artifact of a compiler. -/
abbrev Handle := Nat

/-- A compiler with a state: it hands out artifacts, which are then run, stored and closed. -/
structure Compiler (σ : Type) where
  compile : Allowance → Bytes → Strategy → σ → Except Fault Handle × σ
  load : Allowance → Bytes → Strategy → σ → Except Fault Handle × σ
  run : Handle → Allowance → Bytes → σ → RunReport × σ
  serialize : Handle → Sink → σ → Except Fault Bytes × σ
  close : Handle → σ → Except Fault Unit × σ

structure Pipeline (σ : Type) where
  generate : Program → Except Fault Bytes
  validate : Bytes → Except Fault Unit
  optimizer : Optimizer
  compiler : Compiler σ

/-- The files around an engine, and the objects it has made so far. -/
structure Workshop where
  world : World := {}
  objects : List Object := []

namespace Workshop

/-- Keeps an object that was made; its number is its handle. -/
def keep (shop : Workshop) : Except Fault Object × World → Except Fault Handle × Workshop
  | (.ok o, world) => (.ok shop.objects.length, { world, objects := shop.objects ++ [o] })
  | (.error f, world) => (.error f, { shop with world })

def unknownObject : Fault :=
  .plain "no such object"

end Workshop

namespace Compiler

/-- The compiler of an engine. Lowering goes on even when the caller no longer waits. -/
def ofEngine (e : Engine) : Compiler Workshop where
  compile _ b s shop := shop.keep (e.compile b s shop.world)
  load _ b s shop := shop.keep (e.load b s shop.world)
  run h a input shop :=
    match shop.objects[h]? with
    | some o => (o.run e.backend a input, shop)
    | none => ({ result := .error Workshop.unknownObject }, shop)
  serialize h sink shop :=
    match shop.objects[h]? with
    | some o => (o.serialize sink shop.world, shop)
    | none => (.error Workshop.unknownObject, shop)
  close h shop :=
    match shop.objects[h]? with
    | some o =>
      let r := o.close e.backend shop.world
      (r.1, { world := r.2, objects := shop.objects.set h { o with isClosed := true } })
    | none => (.error Workshop.unknownObject, shop)

end Compiler

namespace Pipeline

def validateBytes (b : Bytes) : Except Fault Unit :=
  match Wasm.Module.validateBytes b with
  | .ok () => .ok ()
  | .error f => .error (.plain f.message)

/-- The pipeline for a target with an optimizer and an engine. -/
def standard (target : Target) (optimizer : Optimizer) (e : Engine) : Pipeline Workshop where
  generate p := Emit.generate p target
  validate := validateBytes
  optimizer := optimizer
  compiler := .ofEngine e

end Pipeline
end TapeWasm
