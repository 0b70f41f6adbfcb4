import TapeWasm.Settings.Number.Numeral
import TapeWasm.Settings.Operator
import TapeWasm.Text.Character
import TapeWasm.Text.Identifier
import TapeWasm.Text.Utf8

/-!
Tokens of settings files. Comments are left out; the end of a line that a comment takes up stays.
Texts are split into literal pieces and sequences of further tokens, which stand between marks.
-/
namespace TapeWasm.Settings

open Text (Glyph)

inductive Token where
  | word (name : String)
  /-- A number, and whether it is written with a point. -/
  | number (value : Number) (hasPoint : Bool)
  | operator (o : Operator)
  | mark (c : Char)
  | ellipsis
  | arrow
  | doubleColon
  | newline
  | openQuote
  | closeQuote
  /-- The start of a text of whole lines, whose common indentation may be left out. -/
  | openLines (isFlush : Bool)
  | closeLines
  /-- A piece of a text. -/
  | literal (cs : List Char)
  /-- The start of a value in a text, which may take away white space before it. -/
  | openValue (trims : Bool)
  /-- The start of a directive in a text. -/
  | openDirective (trims : Bool)
  /-- The end of a value or directive, which may take away white space behind it. -/
  | closeSequence (trims : Bool)
  deriving DecidableEq, Repr

namespace Token

def startsWord (c : Char) : Bool :=
  Text.startsName c || c = '_'

def continuesWord (c : Char) : Bool :=
  Text.continuesName c || c = '-'

def isMark (c : Char) : Bool :=
  "=[](),.!?:".toList.contains c

def operator? (c : Char) : Option Operator :=
  match c with
  | '<' => some .less
  | '>' => some .greater
  | '+' => some .add
  | '-' => some .subtract
  | '*' => some .multiply
  | '/' => some .divide
  | '%' => some .modulo
  | _ => none

def continuesNumber (c : Char) : Bool :=
  c.isDigit || ".eE+-".toList.contains c

/-- The characters of a class that a text starts with. -/
def leadingChars (p : Char → Bool) : List Glyph → List Char
  | .char c :: r => if p c then c :: leadingChars p r else []
  | _ => []

/-- How many characters a number takes up: digits, points and exponents, but no point at the end. The
first number counts the characters passed, the second one those up to the last that is no point. -/
def numberLength : List Char → Nat → Nat → Nat
  | [], _, length => length
  | c :: r, n, length =>
    if c.isDigit then numberLength r (n + 1) (n + 1)
    else if c = '.' then numberLength r (n + 1) length
    else if c = 'e' ∨ c = 'E' then
      match r with
      | d :: r' =>
        if d.isDigit then numberLength r' (n + 2) (n + 2)
        else if d = '+' ∨ d = '-' then
          match r' with
          | d' :: r'' => if d'.isDigit then numberLength r'' (n + 3) (n + 3) else length
          | [] => length
        else length
      | [] => length
    else length

def afterLine : List Glyph → List Glyph
  | [] => []
  | .char '\n' :: r => .char '\n' :: r
  | _ :: r => afterLine r

def afterComment : List Glyph → Option (List Glyph)
  | [] => none
  | .char '*' :: .char '/' :: r => some r
  | _ :: r => afterComment r

/-! ### Quoted texts -/

def hexValue? (c : Char) : Option Nat :=
  if c.isDigit then some (c.toNat - '0'.toNat)
  else if 'a' ≤ c ∧ c ≤ 'f' then some (c.toNat - 'a'.toNat + 10)
  else if 'A' ≤ c ∧ c ≤ 'F' then some (c.toNat - 'A'.toNat + 10)
  else none

/-- A character given by so many hexadecimal digits, and what follows. The digits have to be the
number of a character. -/
def escaped? (width : Nat) (r : List Glyph) : Option (Char × List Glyph) := do
  let ds ← (leadingChars (fun _ => true) (r.take width)).mapM hexValue?
  let n := ds.foldl (fun n d => n * 16 + d) 0
  if ds.length = width ∧ n.isValidChar then return (Char.ofNat n, r.drop width) else none

/-- The character behind a backslash, and what follows. -/
def escape? : List Glyph → Option (Char × List Glyph)
  | .char 'n' :: r => some ('\n', r)
  | .char 'r' :: r => some ('\r', r)
  | .char 't' :: r => some ('\t', r)
  | .char '"' :: r => some ('"', r)
  | .char '\\' :: r => some ('\\', r)
  | .char 'u' :: r => escaped? 4 r
  | .char 'U' :: r => escaped? 8 r
  | _ => none

/-- Characters that end a plain piece of a quoted text. -/
def endsPiece (c : Char) : Bool :=
  c = '"' || c = '$' || c = '%' || c = '\n' || c = '\r'

/-- A plain piece of a quoted text, with what the escapes in it stand for, and what follows. -/
def quotedPiece : Nat → List Glyph → List Char → Option (List Char × List Glyph)
  | 0, _, _ => none
  | fuel + 1, gs, acc =>
    match gs with
    | .char '\\' :: r =>
      match escape? r with
      | some (c, r') => quotedPiece fuel r' (c :: acc)
      | none => none
    | .char c :: r =>
      if endsPiece c then some (acc.reverse, gs) else quotedPiece fuel r (c :: acc)
    | _ => none

/-! ### Texts of whole lines -/

/-- The part of a line that is plain text: up to its end, which belongs to it, or up to a sequence.
There is none if the file ends or a carriage return stands alone. The flag tells whether the line
ends. -/
def linePiece : List Glyph → List Char → Option (List Char × Bool × List Glyph)
  | .char '\n' :: r, acc => some (('\n' :: acc).reverse, true, r)
  | .char '\r' :: .char '\n' :: r, acc => some (('\n' :: '\r' :: acc).reverse, true, r)
  | .char '\r' :: _, _ => none
  | .char '$' :: .char '$' :: .char '\x7b' :: r, acc => linePiece r ('\x7b' :: '$' :: '$' :: acc)
  | .char '%' :: .char '%' :: .char '\x7b' :: r, acc => linePiece r ('\x7b' :: '%' :: '%' :: acc)
  | .char '$' :: .char '\x7b' :: r, acc => some (acc.reverse, false, .char '$' :: .char '\x7b' :: r)
  | .char '%' :: .char '\x7b' :: r, acc => some (acc.reverse, false, .char '%' :: .char '\x7b' :: r)
  | .char c :: r, acc => linePiece r (c :: acc)
  | _, _ => none

/-- A piece of a line with what its doubled marks stand for. Marks are paired from the left. -/
def lineChars : List Char → List Char
  | '$' :: '$' :: '\x7b' :: r => '$' :: '\x7b' :: lineChars r
  | '%' :: '%' :: '\x7b' :: r => '%' :: '\x7b' :: lineChars r
  | '$' :: '$' :: r => '$' :: '$' :: lineChars r
  | '%' :: '%' :: r => '%' :: '%' :: lineChars r
  | c :: r => c :: lineChars r
  | [] => []

/-- The start of a text of whole lines behind two angle brackets: whether indentation is left out, the
word that ends the text, and what follows the line. -/
def linesHead? (gs : List Glyph) : Option (Bool × List Char × List Glyph) :=
  let (isFlush, r) : Bool × List Glyph :=
    match gs with
    | .char '-' :: r => (true, r)
    | r => (false, r)
  match leadingChars continuesWord r with
  | [] => none
  | c :: cs =>
    if startsWord c then
      match r.drop (cs.length + 1) with
      | .char '\n' :: r' | .char '\r' :: .char '\n' :: r' => some (isFlush, c :: cs, r')
      | _ => none
    else none

/-! ### Scanning -/

/-- What a token stands in: a sequence inside a text with so many open braces, a quoted text, or a
text of whole lines with the word that ends it. -/
inductive Frame where
  | sequence (depth : Nat)
  | quoted
  | lines (marker : List Char) (isLineStart : Bool)

/-- A token between texts, the frames behind it, and what follows. Of blanks and comments only the
latter two are given. -/
def codeToken (frames : List Frame) : List Glyph → Option (List Token × List Frame × List Glyph)
  | .char '\n' :: r | .char '\r' :: .char '\n' :: r => some ([.newline], frames, r)
  | .char ' ' :: r | .char '\t' :: r => some ([], frames, r)
  | .char '#' :: r | .char '/' :: .char '/' :: r => some ([], frames, afterLine r)
  | .char '/' :: .char '*' :: r => (afterComment r).map fun r' => ([], frames, r')
  | .char '"' :: r => some ([.openQuote], .quoted :: frames, r)
  | .char '=' :: .char '=' :: r => some ([.operator .equal], frames, r)
  | .char '!' :: .char '=' :: r => some ([.operator .notEqual], frames, r)
  | .char '<' :: .char '=' :: r => some ([.operator .lessEqual], frames, r)
  | .char '>' :: .char '=' :: r => some ([.operator .greaterEqual], frames, r)
  | .char '&' :: .char '&' :: r => some ([.operator .and], frames, r)
  | .char '|' :: .char '|' :: r => some ([.operator .or], frames, r)
  | .char '.' :: .char '.' :: .char '.' :: r => some ([.ellipsis], frames, r)
  | .char '=' :: .char '>' :: r => some ([.arrow], frames, r)
  | .char ':' :: .char ':' :: r => some ([.doubleColon], frames, r)
  | .char '<' :: .char '<' :: r =>
    match linesHead? r with
    | some (isFlush, marker, r') => some ([.openLines isFlush], .lines marker true :: frames, r')
    | none => some ([.operator .less], frames, .char '<' :: r)
  | .char '~' :: .char '\x7d' :: r =>
    match frames with
    | .sequence 0 :: outer => some ([.closeSequence true], outer, r)
    | _ => none
  | .char '\x7b' :: r =>
    match frames with
    | .sequence depth :: outer => some ([.mark '\x7b'], .sequence (depth + 1) :: outer, r)
    | _ => some ([.mark '\x7b'], frames, r)
  | .char '\x7d' :: r =>
    match frames with
    | .sequence 0 :: outer => some ([.closeSequence false], outer, r)
    | .sequence (depth + 1) :: outer => some ([.mark '\x7d'], .sequence depth :: outer, r)
    | _ => some ([.mark '\x7d'], frames, r)
  | .char c :: r =>
    if startsWord c then
      let name := leadingChars continuesWord (.char c :: r)
      some ([.word (String.ofList name)], frames, (Glyph.char c :: r).drop name.length)
    else if c.isDigit then
      let cs := leadingChars continuesNumber (.char c :: r)
      let numeral := cs.take (numberLength cs 0 0)
      (Number.parse? numeral).map fun x =>
        ([.number x (numeral.contains '.')], frames, (Glyph.char c :: r).drop numeral.length)
    else if isMark c then some ([.mark c], frames, r)
    else (operator? c).map fun o => ([.operator o], frames, r)
  | _ => none

/-- The start of a sequence inside a text, if one comes here. -/
def sequence? : List Glyph → Option (Token × List Glyph)
  | .char '$' :: .char '\x7b' :: .char '~' :: r => some (.openValue true, r)
  | .char '$' :: .char '\x7b' :: r => some (.openValue false, r)
  | .char '%' :: .char '\x7b' :: .char '~' :: r => some (.openDirective true, r)
  | .char '%' :: .char '\x7b' :: r => some (.openDirective false, r)
  | _ => none

def quotedToken (outer : List Frame) (fuel : Nat) (gs : List Glyph) :
    Option (List Token × List Frame × List Glyph) :=
  match sequence? gs with
  | some (t, r) => some ([t], .sequence 0 :: .quoted :: outer, r)
  | none =>
    match gs with
    | .char '"' :: r => some ([.closeQuote], outer, r)
    | .char '$' :: .char '$' :: .char '\x7b' :: r =>
      some ([.literal ['$', '\x7b']], .quoted :: outer, r)
    | .char '%' :: .char '%' :: .char '\x7b' :: r =>
      some ([.literal ['%', '\x7b']], .quoted :: outer, r)
    | .char '$' :: r => some ([.literal ['$']], .quoted :: outer, r)
    | .char '%' :: r => some ([.literal ['%']], .quoted :: outer, r)
    | .char '\n' :: _ | .char '\r' :: _ => none
    | _ => (quotedPiece fuel gs []).map fun (cs, r) => ([.literal cs], .quoted :: outer, r)

/-- A token inside a text of whole lines. A line with nothing but the marker ends the text. -/
def linesToken (marker : List Char) (isLineStart : Bool) (outer : List Frame) (gs : List Glyph) :
    Option (List Token × List Frame × List Glyph) :=
  match sequence? gs with
  | some (t, r) => some ([t], .sequence 0 :: .lines marker false :: outer, r)
  | none =>
    (linePiece gs []).map fun (cs, isEnd, r) =>
      if isEnd && isLineStart && Text.trimChars cs == marker then
        ([.newline, .closeLines], outer, r)
      else ([.literal (lineChars cs)], .lines marker isEnd :: outer, r)

/-- Scans a text into tokens; there are none if the text has a character that starts no token, or ends
too early. A token takes at least one character, so the text's length is fuel enough. -/
def scanFrom : Nat → List Glyph → List Frame → List Token → Option (List Token)
  | _, [], frames, acc => if frames.isEmpty then some acc.reverse else none
  | 0, _, _, _ => none
  | fuel + 1, gs, frames, acc =>
    let next :=
      match frames with
      | .quoted :: outer => quotedToken outer fuel gs
      | .lines marker isLineStart :: outer => linesToken marker isLineStart outer gs
      | frames => codeToken frames gs
    match next with
    | some (ts, frames', r) => scanFrom fuel r frames' (ts ++ acc)
    | none => none

/-- The tokens of a settings file. A byte order mark at its start is passed over, and sequences that
are built like a character are taken for some. -/
def scan? (source : Bytes) : Option (List Token) :=
  let gs :=
    match Text.replaceLoose (Text.glyphs source) with
    | .char '\ufeff' :: r => r
    | gs => gs
  scanFrom (gs.length + 1) gs [] []

end Token
end TapeWasm.Settings
