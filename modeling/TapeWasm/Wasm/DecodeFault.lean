import TapeWasm.Bytes

/-!
What can be wrong with a byte string that should be a module or a function body.
-/
namespace TapeWasm.Wasm

inductive DecodeContext where
  | opcode (op : UInt8) (offset : Nat)
  | typeEntry (index : Nat)
  | body (index : Nat)
  | locals
  | section (name : String)
  | frame (part : String) (offset : Nat)
  deriving DecidableEq, Repr

inductive DecodeFault where
  | ended
  | cutShort
  | overflow
  | overflowAt (offset : Nat)
  | badMagic
  | badVersion
  | nameEncoding (offset : Nat)
  | unsupportedOpcode (op : UInt8) (offset : Nat)
  | tableCount (count : Nat)
  | vectorLength (count remaining : Nat)
  | sectionOrder (id : UInt8)
  | unsupportedSection (id : UInt8)
  | unknownSection (id : UInt8)
  | trailingBytes (count : Nat)
  | functionForm (byte : UInt8)
  | valueType (byte : UInt8)
  | importKind (byte : UInt8)
  | exportKind (byte : UInt8)
  | localType (byte : UInt8)
  | tooManyLocals
  | missingEnd
  | dataFlags (index : Nat) (flags : UInt32)
  | limitsFlags (byte : UInt8)
  | globalType (byte : UInt8)
  | mutability (byte : UInt8)
  | constantOpcode (op : UInt8)
  | within (context : DecodeContext) (fault : DecodeFault)
  deriving DecidableEq, Repr

private def hex (b : UInt8) : String :=
  "0x" ++ Bytes.hexOf b

def DecodeContext.message : DecodeContext → String
  | opcode op offset => "opcode " ++ hex op ++ " at offset " ++ toString offset
  | typeEntry i => "type " ++ toString i
  | body i => "body " ++ toString i
  | locals => "locals"
  | .section name => name ++ " section"
  | frame part offset => "wasm: " ++ part ++ " at offset " ++ toString offset

namespace DecodeFault

def message : DecodeFault → String
  | ended => "EOF"
  | cutShort => "unexpected EOF"
  | overflow => "leb128: overflow"
  | overflowAt offset => "varint at " ++ toString offset ++ ": leb128: overflow"
  | badMagic => "invalid wasm magic number"
  | badVersion => "invalid wasm version"
  | nameEncoding offset => "name at " ++ toString offset ++ ": invalid UTF-8"
  | unsupportedOpcode op offset =>
    "unsupported opcode " ++ hex op ++ " at offset " ++ toString offset
  | tableCount count => "br_table count " ++ toString count ++ " exceeds body"
  | vectorLength count remaining =>
    "vector length " ++ toString count ++ " exceeds remaining " ++ toString remaining ++ " bytes"
  | sectionOrder id => "section " ++ toString id.toNat ++ " appears out of order"
  | unsupportedSection id => "unsupported section ID: " ++ toString id.toNat
  | unknownSection id => "unknown section ID: " ++ hex id
  | trailingBytes count => toString count ++ " trailing bytes"
  | functionForm byte => "expected functype (0x60), got " ++ hex byte
  | valueType byte => "invalid value type " ++ hex byte
  | importKind byte => "unsupported import kind: " ++ toString byte.toNat
  | exportKind byte => "invalid export kind: " ++ hex byte
  | localType byte => "invalid local type " ++ hex byte
  | tooManyLocals => "too many locals"
  | missingEnd => "missing end opcode"
  | dataFlags i flags =>
    "data segment " ++ toString i ++ ": unsupported flags " ++ toString flags.toNat
  | limitsFlags byte => "unsupported limits flags " ++ hex byte
  | globalType byte => "invalid global type " ++ hex byte
  | mutability byte => "invalid mutability " ++ hex byte
  | constantOpcode op => "unsupported opcode " ++ hex op ++ " in constant expression"
  | within context fault => context.message ++ ": " ++ fault.message

/-- The fault at the bottom, without the parts it was met in. -/
def root : DecodeFault → DecodeFault
  | within _ fault => fault.root
  | fault => fault

end DecodeFault
end TapeWasm.Wasm
