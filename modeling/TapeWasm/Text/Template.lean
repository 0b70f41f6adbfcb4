import TapeWasm.Text.Quoted

/-!
Texts with places to fill in. A place is a percent sign and a letter: `s` shows a text, `d` a
number, `q` a quoted text or character, `v` either as it is; two percent signs are one. A place
that does not fit what it gets says so, and so does one that gets nothing.
-/
namespace TapeWasm.Text

inductive Filling where
  | text (s : String)
  | number (n : Int)
  deriving DecidableEq, Repr

namespace Filling

def show_ : Filling → String
  | text s => s
  | number n => toString n

def typeName : Filling → String
  | text _ => "string"
  | number _ => "int"

def quoteChar (n : Int) : String :=
  let c := if 0 ≤ n ∧ n < 0x110000 ∧ ¬(0xd800 ≤ n ∧ n < 0xe000) then Char.ofNat n.toNat
    else Char.ofNat 0xfffd
  if c = '\'' then "'\\''"
  else if c = '"' then "'\"'"
  else "'" ++ String.ofList (escapeChar c) ++ "'"

/-- What a place with the given letter shows. -/
def fill (letter : Char) (f : Filling) : String :=
  match letter, f with
  | 's', text s => s
  | 'd', number n => toString n
  | 'v', f => f.show_
  | 'q', text s => quote s
  | 'q', number n => quoteChar n
  | c, f => "%!" ++ String.singleton c ++ "(" ++ f.typeName ++ "=" ++ f.show_ ++ ")"

end Filling

def fillFrom : List Char → List Filling → String → String
  | [], [], out => out
  | [], unused, out =>
    out ++ "%!(EXTRA " ++
      ", ".intercalate (unused.map fun f => f.typeName ++ "=" ++ f.show_) ++ ")"
  | '%' :: '%' :: r, fs, out => fillFrom r fs (out.push '%')
  | ['%'], fs, out => fillFrom [] fs (out ++ "%!(NOVERB)")
  | '%' :: c :: r, f :: fs, out => fillFrom r fs (out ++ f.fill c)
  | '%' :: c :: r, [], out => fillFrom r [] (out ++ "%!" ++ String.singleton c ++ "(MISSING)")
  | c :: r, fs, out => fillFrom r fs (out.push c)

/-- A template with its places filled; without fillings it stands for itself. -/
def template (t : String) (fs : List Filling) : String :=
  if fs.isEmpty then t else fillFrom t.toList fs ""

end TapeWasm.Text
