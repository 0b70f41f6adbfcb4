import TapeWasm.Bytes

/-!
Reading a byte string as UTF-8 when parts of it may be malformed: a byte that starts no well-formed
character stands alone, and reading goes on with the byte after it.
-/
namespace TapeWasm.Text

/-- A piece of a byte string: a well-formed character, or a byte that belongs to none. -/
inductive Glyph where
  | char (c : Char)
  | stray (b : UInt8)
  deriving DecidableEq, Repr

def continues (b : UInt8) : Bool :=
  b &&& 0xc0 == 0x80

def tailBits (b : UInt8) : Nat :=
  b.toNat % 64

/-- The well-formed character at the front and the number of its bytes. Longer forms than needed,
surrogates and numbers past the last code point are malformed. -/
def leadingChar? : Bytes → Option (Char × Nat)
  | [] => none
  | b0 :: r =>
    let n := b0.toNat
    if n < 0x80 then some (Char.ofNat n, 1)
    else if n < 0xc2 then none
    else if n < 0xe0 then
      match r with
      | b1 :: _ => if continues b1 then some (Char.ofNat ((n - 0xc0) * 64 + tailBits b1), 2) else none
      | _ => none
    else if n < 0xf0 then
      match r with
      | b1 :: b2 :: _ =>
        let v := (n - 0xe0) * 4096 + tailBits b1 * 64 + tailBits b2
        if continues b1 && continues b2 && 0x800 ≤ v && !(0xd800 ≤ v && v < 0xe000) then
          some (Char.ofNat v, 3)
        else none
      | _ => none
    else if n < 0xf5 then
      match r with
      | b1 :: b2 :: b3 :: _ =>
        let v := (n - 0xf0) * 262144 + tailBits b1 * 4096 + tailBits b2 * 64 + tailBits b3
        if continues b1 && continues b2 && continues b3 && 0x10000 ≤ v && v < 0x110000 then
          some (Char.ofNat v, 4)
        else none
      | _ => none
    else none

/-- Walks the bytes, passing over the `skip` bytes of a character already taken. -/
def glyphsFrom : Nat → Bytes → List Glyph → List Glyph
  | _, [], acc => acc.reverse
  | skip + 1, _ :: r, acc => glyphsFrom skip r acc
  | 0, b :: r, acc =>
    match leadingChar? (b :: r) with
    | some (c, width) => glyphsFrom (width - 1) r (.char c :: acc)
    | none => glyphsFrom 0 r (.stray b :: acc)

def glyphs (b : Bytes) : List Glyph :=
  glyphsFrom 0 b []

/-- How many bytes a byte asks for behind it, by its first bits alone. -/
def followers (b : UInt8) : Nat :=
  let n := b.toNat
  if n < 0xc0 then 0
  else if n < 0xe0 then 1
  else if n < 0xf0 then 2
  else if n < 0xf8 then 3
  else 0

def isFollower : Glyph → Bool
  | .stray b => continues b
  | .char _ => false

/-- Walks over glyphs, of which the first `count` are known to be replaced. -/
def replaceFrom : Nat → List Glyph → List Glyph → List Glyph
  | _, [], acc => acc.reverse
  | count + 1, _ :: r, acc => replaceFrom count r (.char '\ufffd' :: acc)
  | 0, .char c :: r, acc => replaceFrom 0 r (.char c :: acc)
  | 0, .stray b :: r, acc =>
    let n := followers b
    let next := r.take n
    if n ≠ 0 ∧ next.length = n ∧ next.all isFollower then
      replaceFrom n r (.char '\ufffd' :: acc)
    else replaceFrom 0 r (.stray b :: acc)

/-- The glyphs with a replacement character for every byte of a sequence that is built like a character
but stands for none. -/
def replaceLoose (gs : List Glyph) : List Glyph :=
  replaceFrom 0 gs []

end TapeWasm.Text
