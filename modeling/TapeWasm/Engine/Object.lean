import TapeWasm.Engine.Backend
import TapeWasm.Engine.Cache
import TapeWasm.Engine.Envelope

/-!
Objects: modules lowered by a strategy, ready to run, to be stored, and to be loaded again.
-/
namespace TapeWasm

open Wasm

/-- A place that bytes are written to. It takes all bytes, or refuses any; writing nothing at all
never fails. -/
inductive Sink where
  | takes
  | refuses (reason : String)
  deriving DecidableEq, Repr

def Sink.write : Sink → Bytes → Except Fault Bytes
  | _, [] => .ok []
  | takes, b => .ok b
  | refuses reason, _ => .error (.plain reason)

/-- Settings of the engine, and the runtime it works with. A limit of no pages stands for the largest
memory there is, and an empty directory for none. -/
structure Engine where
  memoryLimitPages : UInt32 := 0
  cacheDir : String := ""
  backend : Backend := .standard

structure Object where
  strategy : Strategy
  bytes : Bytes
  module : Module
  cache? : Option Cache := none
  isClosed : Bool := false
  deriving DecidableEq, Repr

/-- What came of a run: all that was written, and the memory at the end, if there is one. -/
structure RunReport where
  output : Bytes := []
  result : Except Fault (Option Memory)

namespace Engine

/-- A strategy is refused rather than replaced where it is not available. -/
def unavailable (phase : Phase) (s : Strategy) (h : Host) : Fault :=
  .stage
    { phase
      kind := Kind.unsupported
      backend := s.name
      detail := "native compiler is not available on " ++ h.platform } none

def openCache (e : Engine) (c : Cache) : FileWork Unit :=
  fun w =>
    match e.backend.openCache c.dir w with
    | (.ok (), w') => (.ok (), w')
    | (.error why, w') => (.error (.io Phase.compile c.dir.text (some (.plain why))), w')

def lower (e : Engine) (bytes : Bytes) (s : Strategy) (cache? : Option Cache) : FileWork Object :=
  fun w =>
    match e.backend.lower (s.runtimeConfig e.memoryLimitPages (cache?.map (·.dir))) bytes w with
    | (.done module, w') => (.ok { strategy := s, bytes, module, cache? }, w')
    | (.refused why, w') => (.error (.compile s.name (some (.plain why))), w')
    | (.panicked why, w') =>
      (.error (.stage
        { phase := Phase.compile
          kind := Kind.compile
          backend := s.name
          detail := "backend panicked: " ++ why } none), w')

/-- Makes an object of a module; one strategy keeps native code, some of which may be given. -/
def make (e : Engine) (bytes : Bytes) (s : Strategy) (files : List (String × Bytes)) :
    FileWork Object :=
  if s = .optimized then do
    let cache ← Cache.make e.cacheDir (Digest.sha256 bytes)
    let work : FileWork Object := do
      cache.restore files
      e.openCache cache
      e.lower bytes s (some cache)
    work.orElseUndo cache.release
  else e.lower bytes s none

def compile (e : Engine) (bytes : Bytes) (s : Strategy) : FileWork Object :=
  fun w =>
    if s.isAvailable w.host then e.make bytes s [] w
    else (.error (unavailable Phase.compile s w.host), w)

/-- Rebuilds an object that was stored for this strategy on this host. -/
def loadEnvelope (e : Engine) (v : Envelope) (s : Strategy) : FileWork Object :=
  fun w =>
    if v.strategy ≠ s.name then (.error (.backendMismatch s.name v.strategy), w)
    else if v.host ≠ w.host.tag then (.error (.backendMismatch w.host.tag v.host), w)
    else if Digest.sha256 v.module ≠ v.digest then
      (.error (.invalidData Phase.load "module digest does not match"), w)
    else if s.isAvailable w.host then e.make v.module s v.cache w
    else (.error (unavailable Phase.load s w.host), w)

def load (e : Engine) (bytes : Bytes) (s : Strategy) : FileWork Object :=
  fun w =>
    match Envelope.decode bytes with
    | .ok v => e.loadEnvelope v s w
    | .error f => (.error f, w)

end Engine

namespace Object

def trapped (o : Object) (why : String) (stopped? : Option Interrupt) : Fault :=
  .trap o.strategy.name <| some <|
    match stopped? with
    | some i => .join [i.fault, .plain why]
    | none => .plain why

/-- Runs an object from its entry with the given input. A program that ends itself with code zero
has not failed. -/
def run (o : Object) (runtime : Backend) (a : Allowance) (input : Bytes) : RunReport :=
  if o.isClosed then
    { result := .error (.stage
        { phase := Phase.execute
          kind := Kind.invalidState
          backend := o.strategy.name
          detail := "object is closed" } none) }
  else
    match runtime.run o.module a input with
    | .noHost why =>
      { result := .error (.stage
          { phase := Phase.execute
            kind := Kind.trap
            backend := o.strategy.name
            detail := "instantiate WASI host" } (some (.plain why))) }
    | .noInstance why stopped? => { result := .error (o.trapped why stopped?) }
    | .noEntry => { result := .error (.invalidData Phase.execute "module does not export _start") }
    | .called output none memory? => { output, result := .ok memory? }
    | .called output (some failure) memory? =>
      if failure.exitCode? = some 0 then { output, result := .ok memory? }
      else { output, result := .error (o.trapped failure.why failure.stopped?) }

def envelope (o : Object) (host : Host) (files : List (String × Bytes)) : Envelope where
  format := Envelope.currentFormat
  strategy := o.strategy.name
  host := host.tag
  digest := Digest.sha256 o.bytes
  module := o.bytes
  cache := files

def files (o : Object) (w : World) : Except Fault (List (String × Bytes)) :=
  match o.cache? with
  | some c => c.collect w
  | none => .ok []

/-- Stores an object; what comes back is what was written. -/
def serialize (o : Object) (sink : Sink) (w : World) : Except Fault Bytes :=
  if o.isClosed then
    .error (.stage
      { phase := Phase.serialize
        kind := Kind.invalidState
        detail := "object is closed" } none)
  else do
    let files ← o.files w
    match sink.write (o.envelope w.host files).encode with
    | .ok b => .ok b
    | .error f => .error (.io Phase.serialize "" (some f))

/-- Releases what belongs to an object; a second time there is nothing to do. -/
def close (o : Object) (runtime : Backend) (w : World) : Except Fault Unit × World :=
  if o.isClosed then (.ok (), w)
  else
    let complaints := runtime.closeComplaint?.toList ++
      (if o.cache?.isSome then runtime.cacheComplaint?.toList else [])
    let result := if complaints = [] then .ok () else .error (.join (complaints.map .plain))
    (result, o.cache?.elim w (·.release w))

end Object
end TapeWasm
