/-!
Byte strings and the ways of writing them down.
-/
namespace TapeWasm

abbrev Bytes := List UInt8

namespace Bytes

def ofString (s : String) : Bytes :=
  s.toByteArray.data.toList

/-- The text that these bytes are the UTF-8 form of, if there is one. -/
def toString? (b : Bytes) : Option String :=
  String.fromUTF8? ⟨b.toArray⟩

def hexDigit (n : Nat) : Char :=
  if n < 10 then Char.ofNat (48 + n) else Char.ofNat (87 + n)

def hexOf (b : UInt8) : String :=
  String.ofList [hexDigit (b.toNat / 16), hexDigit (b.toNat % 16)]

/-- Two lower-case digits a byte, and nothing between the bytes. -/
def toHex (b : Bytes) : String :=
  String.ofList (b.flatMap fun x => [hexDigit (x.toNat / 16), hexDigit (x.toNat % 16)])

def ofWord (w : UInt32) : Bytes :=
  [w.toUInt8, (w >>> 8).toUInt8, (w >>> 16).toUInt8, (w >>> 24).toUInt8]

/-- The word whose bytes, lowest first, are the four given ones. -/
def word (b0 b1 b2 b3 : UInt8) : UInt32 :=
  b0.toUInt32 ||| (b1.toUInt32 <<< 8) ||| (b2.toUInt32 <<< 16) ||| (b3.toUInt32 <<< 24)

end Bytes
end TapeWasm
