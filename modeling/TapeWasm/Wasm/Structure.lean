import TapeWasm.Text.Quoted
import TapeWasm.Wasm.Module

/-!
The checks of a module that do not look inside function bodies: type references, exports, the start
function, the number of bodies, and memories, in this order. The first failure is reported.
-/
namespace TapeWasm.Wasm

inductive StructureFault where
  | importType (index : Nat) (module name : String) (type : UInt32)
  | functionType (index : Nat) (type : UInt32) (types : Nat)
  | duplicateExport (name : String) (index : Nat)
  | exportKind (name : String) (kind : UInt8)
  | exportIndex (name : String) (target : UInt32)
  | startMissing (func : UInt32)
  | startType (func : UInt32) (params results : Nat)
  | bodyCount (bodies funcs : Nat)
  | memoryCount (count : UInt32)
  | dataWithoutMemory
  | memoryMin (memory : Nat) (min : UInt32)
  | memoryMax (memory : Nat) (max : UInt32)
  | memoryBounds (memory : Nat) (max min : UInt32)
  deriving DecidableEq, Repr

def maxPages : UInt32 := 65536

def pageSize : Nat := 65536

namespace StructureFault

def message : StructureFault → String
  | importType i module name t =>
    "import " ++ toString i ++ " (" ++ module ++ "." ++ name ++ "): invalid type index " ++
      toString t.toNat
  | functionType i t n =>
    "function " ++ toString i ++ ": invalid type index " ++ toString t.toNat ++ " of " ++
      toString n ++ " types"
  | duplicateExport name i => "duplicate export " ++ Text.quote name ++ " at " ++ toString i
  | exportKind name k =>
    "export " ++ Text.quote name ++ ": unsupported kind " ++ toString k.toNat
  | exportIndex name i => "export " ++ Text.quote name ++ ": invalid index " ++ toString i.toNat
  | startMissing f => "start function " ++ toString f.toNat ++ " does not exist"
  | startType f p r =>
    "start function " ++ toString f.toNat ++ " has type " ++ toString p ++ "->" ++ toString r ++
      ", want 0->0"
  | bodyCount b f =>
    "code section has " ++ toString b ++ " bodies for " ++ toString f ++ " functions"
  | memoryCount n => toString n.toNat ++ " memories declared, at most one is allowed"
  | dataWithoutMemory => "data segments without a memory"
  | memoryMin i n =>
    "memory " ++ toString i ++ ": min " ++ toString n.toNat ++ " exceeds maximum " ++
      toString maxPages.toNat ++ " pages"
  | memoryMax i n =>
    "memory " ++ toString i ++ ": max " ++ toString n.toNat ++ " exceeds maximum " ++
      toString maxPages.toNat ++ " pages"
  | memoryBounds i max min =>
    "memory " ++ toString i ++ ": max " ++ toString max.toNat ++ " below min " ++
      toString min.toNat

end StructureFault

structure IndexSpace where
  funcs : UInt32
  memories : UInt32
  globals : UInt32
  deriving DecidableEq, Repr

/-- The bound of the indices of a kind, for the kinds that can be exported. -/
def IndexSpace.limit? (s : IndexSpace) : UInt8 → Option UInt32
  | ExternKind.func => some s.funcs
  | ExternKind.memory => some s.memories
  | ExternKind.globalVar => some s.globals
  | _ => none

namespace Module

def importTypesFault? (types : Nat) : List Import → Nat → Option StructureFault
  | [], _ => none
  | i :: is, n =>
    match i.desc with
    | .func t =>
      if t.toNat < types then importTypesFault? types is (n + 1)
      else some (.importType n i.module i.name t)
    | _ => importTypesFault? types is (n + 1)

def funcTypesFault? (types : Nat) : List UInt32 → Nat → Option StructureFault
  | [], _ => none
  | t :: ts, n =>
    if t.toNat < types then funcTypesFault? types ts (n + 1)
    else some (.functionType n t types)

def indexSpace (m : Module) : IndexSpace where
  funcs := UInt32.ofNat m.numFuncs
  memories := UInt32.ofNat m.numMemories
  globals := UInt32.ofNat m.numGlobals

def exportsFault? (m : Module) : List Export → Nat → List String → Option StructureFault
  | [], _, _ => none
  | e :: es, n, seen =>
    if seen.contains e.name then some (.duplicateExport e.name n)
    else
      match m.indexSpace.limit? e.kind with
      | none => some (.exportKind e.name e.kind)
      | some limit =>
        if e.index < limit then m.exportsFault? es (n + 1) (e.name :: seen)
        else some (.exportIndex e.name e.index)

def startFault? (m : Module) : Option StructureFault :=
  match m.start with
  | none => none
  | some f =>
    match m.funcType? f with
    | none => some (.startMissing f)
    | some t =>
      if t.params.length + t.results.length = 0 then none
      else some (.startType f t.params.length t.results.length)

def bodyCountFault? (m : Module) : Option StructureFault :=
  if m.bodies.length = m.funcs.length then none
  else some (.bodyCount m.bodies.length m.funcs.length)

def limitsFault? : List Limits → Nat → Option StructureFault
  | [], _ => none
  | l :: ls, n =>
    if maxPages < l.min then some (.memoryMin n l.min)
    else
      match l.max with
      | none => limitsFault? ls (n + 1)
      | some max =>
        if maxPages < max then some (.memoryMax n max)
        else if max < l.min then some (.memoryBounds n max l.min)
        else limitsFault? ls (n + 1)

def memoryLimits (m : Module) : List Limits :=
  m.importedMemories.filterMap id ++ m.memories

def memoriesFault? (m : Module) : Option StructureFault :=
  let total := m.indexSpace.memories
  if 1 < total then some (.memoryCount total)
  else if total = 0 ∧ m.data ≠ [] then some .dataWithoutMemory
  else limitsFault? m.memoryLimits 0

def structureFault? (m : Module) : Option StructureFault :=
  (importTypesFault? m.types.length m.imports 0).or <|
  (funcTypesFault? m.types.length m.funcs 0).or <|
  (m.exportsFault? m.exports 0 []).or <|
  m.startFault?.or <|
  m.bodyCountFault?.or <|
  m.memoriesFault?

def checkStructure (m : Module) : Except StructureFault Unit :=
  match m.structureFault? with
  | none => .ok ()
  | some f => .error f

end Module
end TapeWasm.Wasm
