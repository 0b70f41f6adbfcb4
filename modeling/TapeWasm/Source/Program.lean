import TapeWasm.Bytes

/-!
Programs: the symbols of a text, each with the place it was found at. Everything else in the text is
comment.
-/
namespace TapeWasm

/-- A place in a text: a byte offset counted from zero, a line and a column counted from one. -/
structure Position where
  offset : Int
  line : Int
  col : Int
  deriving DecidableEq, Repr, Inhabited

namespace Position

def start : Position := ⟨0, 1, 1⟩

/-- The place after one more byte; a newline starts the next line. -/
def advance (p : Position) (b : UInt8) : Position :=
  if b == 10 then ⟨p.offset + 1, p.line + 1, 1⟩ else ⟨p.offset + 1, p.line, p.col + 1⟩

def text (p : Position) : String :=
  toString p.line ++ ":" ++ toString p.col

@[simp] theorem offset_advance (p : Position) (b : UInt8) :
    (p.advance b).offset = p.offset + 1 := by
  unfold advance; split <;> rfl

end Position

inductive Symbol where
  | left
  | right
  | inc
  | dec
  | output
  | input
  | opening
  | closing
  deriving DecidableEq, Repr

namespace Symbol

def toByte : Symbol → UInt8
  | left => 60
  | right => 62
  | inc => 43
  | dec => 45
  | output => 46
  | input => 44
  | opening => 91
  | closing => 93

/-- The symbol that a byte stands for; all other bytes are comment. -/
def ofByte? (b : UInt8) : Option Symbol :=
  match b with
  | 60 => some left
  | 62 => some right
  | 43 => some inc
  | 45 => some dec
  | 46 => some output
  | 44 => some input
  | 91 => some opening
  | 93 => some closing
  | _ => none

@[simp] theorem ofByte?_toByte (s : Symbol) : ofByte? s.toByte = some s := by
  cases s <;> rfl

end Symbol

def inAlphabet (b : UInt8) : Bool :=
  (Symbol.ofByte? b).isSome

def symbolText (b : UInt8) : String :=
  String.singleton (Char.ofNat b.toNat)

/-- A program as symbols in order. A program put together by hand may hold bytes outside the
alphabet, and fewer or more places than symbols. -/
structure Program where
  symbols : Bytes := []
  positions : List Position := []
  deriving DecidableEq, Repr

namespace Program

def size (p : Program) : Nat :=
  p.symbols.length

/-- The program written out again, without comment: every symbol is the byte that it stands for. -/
def render (p : Program) : Bytes :=
  p.symbols

/-- Where a symbol was found; a symbol without a recorded place counts as part of a first line. -/
def position (p : Program) (i : Nat) : Position :=
  p.positions[i]?.getD ⟨i, 1, i + 1⟩

/-- Collects the symbols from a place on, those found so far in `acc`, last first. -/
def filterFrom : Bytes → Position → List (UInt8 × Position) → List (UInt8 × Position)
  | [], _, acc => acc.reverse
  | b :: r, at_, acc =>
    filterFrom r (at_.advance b) (if inAlphabet b then (b, at_) :: acc else acc)

def filter (text : Bytes) : Program :=
  let marks := filterFrom text Position.start []
  { symbols := marks.map (·.1), positions := marks.map (·.2) }

end Program

end TapeWasm
