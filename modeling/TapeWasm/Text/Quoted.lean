import TapeWasm.Text.Printable
import TapeWasm.Text.Utf8

/-!
Quoted texts: between double quotes, with a backslash form for the quote, the backslash, and all
that does not print.
-/
namespace TapeWasm.Text

/-- The last `width` hexadecimal digits of a number, lower case. -/
def hexDigits : Nat → Nat → List Char
  | 0, _ => []
  | width + 1, n => hexDigits width (n / 16) ++ [Bytes.hexDigit (n % 16)]

def escapeByte (b : UInt8) : List Char :=
  '\\' :: 'x' :: hexDigits 2 b.toNat

def escapeChar (c : Char) : List Char :=
  if c == '"' || c == '\\' then ['\\', c]
  else if isPrintable c then [c]
  else
    match c.toNat with
    | 7 => ['\\', 'a']
    | 8 => ['\\', 'b']
    | 9 => ['\\', 't']
    | 10 => ['\\', 'n']
    | 11 => ['\\', 'v']
    | 12 => ['\\', 'f']
    | 13 => ['\\', 'r']
    | n =>
      if n < 0x80 then '\\' :: 'x' :: hexDigits 2 n
      else if n < 0x10000 then '\\' :: 'u' :: hexDigits 4 n
      else '\\' :: 'U' :: hexDigits 8 n

def Glyph.escape : Glyph → List Char
  | .char c => escapeChar c
  | .stray b => escapeByte b

def quote (s : String) : String :=
  String.ofList ('"' :: s.toList.flatMap escapeChar ++ ['"'])

/-- A byte string between quotes; bytes that are not part of a character are written by number. -/
def quoteBytes (b : Bytes) : String :=
  String.ofList ('"' :: (glyphs b).flatMap Glyph.escape ++ ['"'])

end TapeWasm.Text
