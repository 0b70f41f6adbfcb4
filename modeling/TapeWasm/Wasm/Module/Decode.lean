import TapeWasm.Wasm.Module.Encode
import TapeWasm.Wasm.Opcode
import TapeWasm.Wasm.Reader

/-!
Reading modules. Sections other than custom ones must come in rising order, and a section has to be
used up by its contents.
-/
namespace TapeWasm.Wasm

def maxLocals : Nat := 50000

namespace Decode

open Decoder

def valueType : Decoder ValueType := do
  let b ← byte
  if (ValueType.mk b).isValid then return ⟨b⟩ else fail (.valueType b)

def valueTypes : Decoder (List ValueType) :=
  vector fun _ => valueType

def funcType (i : Nat) : Decoder FuncType := do
  let form ← within (.typeEntry i) byte
  if form = funcTypeForm then
    let params ← valueTypes
    let results ← valueTypes
    return ⟨params, results⟩
  else fail (.within (.typeEntry i) (.functionForm form))

def limits : Decoder Limits := do
  let flags ← byte
  if flags = 0 then
    return ⟨← u32, none⟩
  else if flags = 1 then
    let min ← u32
    let max ← u32
    return ⟨min, some max⟩
  else fail (.limitsFlags flags)

def globalType : Decoder GlobalType := do
  let b ← byte
  if (ValueType.mk b).isValid then
    let mut? ← byte
    if mut? = 0 then return ⟨⟨b⟩, false⟩
    else if mut? = 1 then return ⟨⟨b⟩, true⟩
    else fail (.mutability mut?)
  else fail (.globalType b)

def importDesc : Decoder ImportDesc := do
  let kind ← byte
  match kind with
  | ExternKind.func => return .func (← u32)
  | ExternKind.memory => return .memory (some (← limits))
  | ExternKind.globalVar => return .globalVar (some (← globalType))
  | _ => fail (.importKind kind)

def importEntry : Decoder Import := do
  let module ← name
  let name ← name
  let desc ← importDesc
  return { module, name, desc }

/-- A constant expression up to its `end`, after the part in `acc`, last byte first. Its numbers are
written again in the fewest bytes. -/
def constExprFrom : Nat → Bytes → Decoder Bytes
  | 0, _ => fail .ended
  | fuel + 1, acc => do
    let op ← byte
    match op with
    | Op.stop => return (op :: acc).reverse
    | Op.i32Const =>
      let v ← signed 32
      constExprFrom fuel ((Varint.encodeS64 v).reverse ++ op :: acc)
    | Op.i64Const =>
      let v ← signed 64
      constExprFrom fuel ((Varint.encodeS64 v).reverse ++ op :: acc)
    | Op.globalGet =>
      let v ← u32
      constExprFrom fuel ((Varint.encodeU32 v).reverse ++ op :: acc)
    | _ => fail (.constantOpcode op)

def constExpr : Decoder Bytes := do
  let left ← remaining
  constExprFrom (left + 1) []

def globalVar : Decoder Global := do
  let type ← globalType
  let init ← constExpr
  return { type, init }

def exportEntry : Decoder Export := do
  let name ← name
  let kind ← byte
  if ExternKind.globalVar < kind then fail (.exportKind kind)
  else
    let index ← u32
    return { name, kind, index }

/-- Runs of local variables, `total` variables having been declared by those before. -/
def localRunsFrom : Nat → Nat → List LocalRun → Decoder (List LocalRun)
  | 0, _, acc => return acc.reverse
  | count + 1, total, acc => do
    let n ← u32
    let t ← byte
    if (ValueType.mk t).isValid then
      if maxLocals < total + n.toNat then fail .tooManyLocals
      else localRunsFrom count (total + n.toNat) (⟨n, ⟨t⟩⟩ :: acc)
    else fail (.localType t)

def localRuns : Decoder (List LocalRun) := do
  let count ← u32
  let left ← remaining
  if left < count.toNat then fail (.vectorLength count.toNat left)
  else localRunsFrom count.toNat 0 []

def bodyContents : Decoder Body := do
  let locals ← within .locals localRuns
  let code ← all
  if code.getLast? = some Op.stop then return { locals, code }
  else fail .missingEnd

def body (i : Nat) : Decoder Body := do
  let size ← u32
  within (.body i) do
    let raw ← bytes size.toNat
    onBytes bodyContents raw

def dataSegment (i : Nat) : Decoder DataSegment := do
  let flags ← u32
  if flags = 0 then
    let offset ← constExpr
    let size ← u32
    let init ← bytes size.toNat
    return { offset, init }
  else fail (.dataFlags i flags)

def custom : Decoder CustomSection := do
  let name ← name
  let data ← all
  return { name, data }

def sectionDecoder? (id : UInt8) (m : Module) : Option (String × Decoder Module) :=
  match id with
  | SectionId.custom => some ("custom", do return { m with customs := m.customs ++ [← custom] })
  | SectionId.types => some ("type", do return { m with types := ← vector funcType })
  | SectionId.imports =>
    some ("import", do return { m with imports := ← vector fun _ => importEntry })
  | SectionId.funcs => some ("function", do return { m with funcs := ← vector fun _ => u32 })
  | SectionId.memories => some ("memory", do return { m with memories := ← vector fun _ => limits })
  | SectionId.globals =>
    some ("global", do return { m with globals := ← vector fun _ => globalVar })
  | SectionId.exports =>
    some ("export", do return { m with exports := ← vector fun _ => exportEntry })
  | SectionId.start => some ("start", do return { m with start := some (← u32) })
  | SectionId.bodies => some ("code", do return { m with bodies := ← vector body })
  | SectionId.data => some ("data", do return { m with data := ← vector dataSegment })
  | _ => none

/-- Adds the contents of a section to a module. Only a custom section may leave bytes over. -/
def sectionContents (id : UInt8) (payload : Bytes) (m : Module) : Except DecodeFault Module :=
  match sectionDecoder? id m with
  | none =>
    if id = SectionId.tables ∨ id = SectionId.elements then .error (.unsupportedSection id)
    else .error (.unknownSection id)
  | some (title, decoder) =>
    match decoder ⟨payload, 0⟩ with
    | .error f _ => .error (.within (.section title) f)
    | .ok m' r =>
      if id ≠ SectionId.custom ∧ r.rest ≠ [] then
        .error (.within (.section title) (.trailingBytes r.rest.length))
      else .ok m'

/-- The number, size and bytes of a section; `last` is the number of the last one that was not
custom. -/
def sectionFrame (last : UInt8) : Decoder (UInt8 × Bytes) := do
  let id ← framed "section header" byte
  if id ≠ SectionId.custom ∧ id ≤ last then fail (.sectionOrder id)
  else
    let size ← framed "section size" u32
    let payload ← framed "section data" (bytes size.toNat)
    return (id, payload)

/-- Sections up to the end of the bytes. Every section takes a byte, so there are no more of them
than bytes. -/
def sectionsFrom : Nat → Reader → UInt8 → Module → Except DecodeFault Module
  | 0, _, _, m => .ok m
  | fuel + 1, r, last, m =>
    match r.rest with
    | [] => .ok m
    | _ :: _ =>
      match sectionFrame last r with
      | .error f _ => .error f
      | .ok (id, payload) r' =>
        match sectionContents id payload m with
        | .error f => .error f
        | .ok m' => sectionsFrom fuel r' (if id = SectionId.custom then last else id) m'

def header : Decoder Unit := do
  let b ← framed "header" (bytes 4)
  if b = magic then
    let v ← framed "header" (bytes 4)
    if v = version then return else fail .badVersion
  else fail .badMagic

end Decode

def Module.decode (b : Bytes) : Except DecodeFault Module :=
  match Decode.header ⟨b, 0⟩ with
  | .error f _ => .error f
  | .ok () r => Decode.sectionsFrom b.length r 0 {}

end TapeWasm.Wasm
