import TapeWasm.Bytes
import TapeWasm.Wasm.ValueType

/-!
Modules: the parts that the binary format lists, and the index spaces over them. Imports come before
definitions in every index space, each kind numbered by itself in the order in which its imports stand
among all of them.
-/
namespace TapeWasm.Wasm

namespace ExternKind
@[match_pattern] abbrev func : UInt8 := 0
@[match_pattern] abbrev table : UInt8 := 1
@[match_pattern] abbrev memory : UInt8 := 2
@[match_pattern] abbrev globalVar : UInt8 := 3
end ExternKind

/-- The size of a memory in pages, and its bound if it has one. -/
structure Limits where
  min : UInt32
  max : Option UInt32 := none
  deriving DecidableEq, Repr

structure GlobalType where
  value : ValueType
  isMutable : Bool
  deriving DecidableEq, Repr

/-- What an import stands for. A memory or global may be left undescribed; kinds other than these
carry no description. -/
inductive ImportDesc where
  | func (type : UInt32)
  | memory (limits : Option Limits)
  | globalVar (type : Option GlobalType)
  | other (kind : UInt8)
      (plain : kind ≠ ExternKind.func ∧ kind ≠ ExternKind.memory ∧ kind ≠ ExternKind.globalVar)
  deriving DecidableEq, Repr

structure Import where
  module : String
  name : String
  desc : ImportDesc
  deriving DecidableEq, Repr

/-- A global and the constant expression, end included, that gives its first value. -/
structure Global where
  type : GlobalType
  init : Bytes
  deriving DecidableEq, Repr

structure Export where
  name : String
  kind : UInt8
  index : UInt32
  deriving DecidableEq, Repr

/-- So many local variables of one type. -/
structure LocalRun where
  count : UInt32
  type : ValueType
  deriving DecidableEq, Repr

/-- A function body; the code includes its last `end`. -/
structure Body where
  locals : List LocalRun := []
  code : Bytes
  deriving DecidableEq, Repr

structure DataSegment where
  offset : Bytes
  init : Bytes
  deriving DecidableEq, Repr

structure CustomSection where
  name : String
  data : Bytes
  deriving DecidableEq, Repr

structure Module where
  types : List FuncType := []
  imports : List Import := []
  /-- The type index of each defined function. -/
  funcs : List UInt32 := []
  memories : List Limits := []
  globals : List Global := []
  exports : List Export := []
  start : Option UInt32 := none
  bodies : List Body := []
  data : List DataSegment := []
  customs : List CustomSection := []
  deriving DecidableEq, Repr

namespace ImportDesc

def kind : ImportDesc → UInt8
  | func _ => ExternKind.func
  | memory _ => ExternKind.memory
  | globalVar _ => ExternKind.globalVar
  | other k _ => k

/-- The type index of a function; zero where there is none. -/
def typeIndex : ImportDesc → UInt32
  | func t => t
  | memory _ | globalVar _ | other _ _ => 0

def globalType? : ImportDesc → Option GlobalType
  | globalVar g => g
  | func _ | memory _ | other _ _ => none

end ImportDesc

namespace Import

def func? (i : Import) : Option UInt32 :=
  match i.desc with
  | .func t => some t
  | .memory _ | .globalVar _ | .other _ _ => none

def memory? (i : Import) : Option (Option Limits) :=
  match i.desc with
  | .memory l => some l
  | .func _ | .globalVar _ | .other _ _ => none

def globalVar? (i : Import) : Option (Option GlobalType) :=
  match i.desc with
  | .globalVar g => some g
  | .func _ | .memory _ | .other _ _ => none

end Import

namespace Body

def localCount (b : Body) : Nat :=
  b.locals.foldl (fun n l => n + l.count.toNat) 0

def localTypes (b : Body) : List ValueType :=
  b.locals.flatMap fun l => List.replicate l.count.toNat l.type

end Body

namespace Module

def importedFuncs (m : Module) : List UInt32 :=
  m.imports.filterMap Import.func?

def importedMemories (m : Module) : List (Option Limits) :=
  m.imports.filterMap Import.memory?

def importedGlobals (m : Module) : List (Option GlobalType) :=
  m.imports.filterMap Import.globalVar?

def importCount (m : Module) (kind : UInt8) : Nat :=
  m.imports.foldl (fun n i => if i.desc.kind = kind then n + 1 else n) 0

def numFuncs (m : Module) : Nat :=
  m.importCount ExternKind.func + m.funcs.length

def numMemories (m : Module) : Nat :=
  m.importCount ExternKind.memory + m.memories.length

def numGlobals (m : Module) : Nat :=
  m.importCount ExternKind.globalVar + m.globals.length

/-- What an index stands for: an import, or a definition by its number among the definitions. -/
inductive Target where
  | imported (i : Import)
  | defined (n : UInt32)
  deriving DecidableEq, Repr

/-- Counts an index of a kind down along the imports. -/
def importedAt (kind : UInt8) : List Import → UInt32 → Target
  | [], n => .defined n
  | i :: is, n =>
    if i.desc.kind ≠ kind then importedAt kind is n
    else if n = 0 then .imported i
    else importedAt kind is (n - 1)

/-- What is said of an import, or of a definition if there are so many. -/
def Target.resolve (ofImport : Import → Option β) (definitions : List α)
    (ofDefinition : α → Option β) : Target → Option β
  | imported i => ofImport i
  | defined n => definitions[n.toNat]?.bind ofDefinition

def typeAt? (m : Module) (t : UInt32) : Option FuncType :=
  m.types[t.toNat]?

def funcType? (m : Module) (i : UInt32) : Option FuncType :=
  (importedAt ExternKind.func m.imports i).resolve (fun i => m.typeAt? i.desc.typeIndex) m.funcs
    m.typeAt?

def globalType? (m : Module) (i : UInt32) : Option GlobalType :=
  (importedAt ExternKind.globalVar m.imports i).resolve (fun i => i.desc.globalType?) m.globals
    fun g => some g.type

def exportNamed? (m : Module) (name : String) : Option Export :=
  m.exports.find? (·.name == name)

def internType (m : Module) (t : FuncType) : UInt32 × Module :=
  match m.types.findIdx? (· == t) with
  | some i => (UInt32.ofNat i, m)
  | none => (UInt32.ofNat m.types.length, { m with types := m.types ++ [t] })

end Module

/-- The functions that the host provides to programs. -/
inductive HostCall where
  | read
  | write
  deriving DecidableEq, Repr

namespace HostCall

def hostModule : String := "wasi_snapshot_preview1"

def name : HostCall → String
  | read => "fd_read"
  | write => "fd_write"

def ofName? : String → Option HostCall
  | "fd_read" => some read
  | "fd_write" => some write
  | _ => none

/-- The type of all of them: each takes a stream, descriptors and their number, and the address of
the count of bytes moved. -/
def type : FuncType where
  params := [.i32, .i32, .i32, .i32]
  results := [.i32]

@[simp] theorem ofName?_name (c : HostCall) : ofName? c.name = some c := by
  cases c <;> rfl

end HostCall

end TapeWasm.Wasm
