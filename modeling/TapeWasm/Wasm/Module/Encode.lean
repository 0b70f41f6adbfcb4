import TapeWasm.Wasm.Module
import TapeWasm.Wasm.Varint

/-!
Writing modules. Sections stand in the order of the format, a section without entries is left out,
and custom sections come last.
-/
namespace TapeWasm.Wasm

namespace SectionId
@[match_pattern] abbrev custom : UInt8 := 0
@[match_pattern] abbrev types : UInt8 := 1
@[match_pattern] abbrev imports : UInt8 := 2
@[match_pattern] abbrev funcs : UInt8 := 3
@[match_pattern] abbrev tables : UInt8 := 4
@[match_pattern] abbrev memories : UInt8 := 5
@[match_pattern] abbrev globals : UInt8 := 6
@[match_pattern] abbrev exports : UInt8 := 7
@[match_pattern] abbrev start : UInt8 := 8
@[match_pattern] abbrev elements : UInt8 := 9
@[match_pattern] abbrev bodies : UInt8 := 10
@[match_pattern] abbrev data : UInt8 := 11
end SectionId

def magic : Bytes := [0x00, 0x61, 0x73, 0x6d]
def version : Bytes := [0x01, 0x00, 0x00, 0x00]

/-- The byte that opens a function type. -/
def funcTypeForm : UInt8 := 0x60

namespace Encode

def length (n : Nat) : Bytes :=
  Varint.encodeU32 (UInt32.ofNat n)

def sized (b : Bytes) : Bytes :=
  length b.length ++ b

def name (s : String) : Bytes :=
  sized (Bytes.ofString s)

def vector (item : α → Bytes) (xs : List α) : Bytes :=
  length xs.length ++ xs.flatMap item

def frame (id : UInt8) (payload : Bytes) : Bytes :=
  id :: sized payload

/-- A section of items, left out if there are none. -/
def vectorSection (id : UInt8) (item : α → Bytes) (xs : List α) : Bytes :=
  if xs.isEmpty then [] else frame id (vector item xs)

def valueTypes (ts : List ValueType) : Bytes :=
  vector (fun t => [t.byte]) ts

def funcType (t : FuncType) : Bytes :=
  funcTypeForm :: valueTypes t.params ++ valueTypes t.results

def limits (l : Limits) : Bytes :=
  match l.max with
  | none => 0 :: Varint.encodeU32 l.min
  | some max => 1 :: Varint.encodeU32 l.min ++ Varint.encodeU32 max

def globalType (g : GlobalType) : Bytes :=
  [g.value.byte, if g.isMutable then 1 else 0]

def importDesc : ImportDesc → Bytes
  | .func t => Varint.encodeU32 t
  | .memory l => (l.map limits).getD []
  | .globalVar g => (g.map globalType).getD []
  | .other _ _ => []

def importEntry (i : Import) : Bytes :=
  name i.module ++ name i.name ++ i.desc.kind :: importDesc i.desc

def globalVar (g : Global) : Bytes :=
  globalType g.type ++ g.init

def exportEntry (e : Export) : Bytes :=
  name e.name ++ e.kind :: Varint.encodeU32 e.index

def localRun (l : LocalRun) : Bytes :=
  Varint.encodeU32 l.count ++ [l.type.byte]

def body (b : Body) : Bytes :=
  sized (vector localRun b.locals ++ b.code)

def dataSegment (d : DataSegment) : Bytes :=
  length 0 ++ d.offset ++ sized d.init

def custom (c : CustomSection) : Bytes :=
  frame SectionId.custom (name c.name ++ c.data)

end Encode

open Encode in
def Module.encode (m : Module) : Bytes :=
  magic ++ version ++
    vectorSection SectionId.types funcType m.types ++
    vectorSection SectionId.imports importEntry m.imports ++
    vectorSection SectionId.funcs Varint.encodeU32 m.funcs ++
    vectorSection SectionId.memories limits m.memories ++
    vectorSection SectionId.globals globalVar m.globals ++
    vectorSection SectionId.exports exportEntry m.exports ++
    (match m.start with
      | none => []
      | some i => frame SectionId.start (Varint.encodeU32 i)) ++
    vectorSection SectionId.bodies body m.bodies ++
    vectorSection SectionId.data dataSegment m.data ++
    m.customs.flatMap custom

end TapeWasm.Wasm
