import TapeWasm.Settings.Number

/-!
Numbers as text: in full, without an exponent, with the fewest digits that still tell the number from
its neighbours of the same precision.
-/
namespace TapeWasm.Settings.Number

/-- Decimal digits, none of them a zero at the end, and how many of them stand before the point. -/
structure Digits where
  digits : List Char
  point : Int
  deriving DecidableEq, Repr

namespace Digits

def trim (ds : List Char) : List Char :=
  (ds.reverse.dropWhile (· = '0')).reverse

def exact (m : Nat) (e : Int) : Digits :=
  if m = 0 then ⟨[], 0⟩
  else if 0 ≤ e then
    let ds := (Nat.repr (m <<< e.toNat)).toList
    ⟨trim ds, ds.length⟩
  else
    let ds := (Nat.repr (m * Nat.pow 5 (-e).toNat)).toList
    ⟨trim ds, ds.length + e⟩

def down (d : Digits) (n : Nat) : Digits :=
  if n < d.digits.length then { d with digits := trim (d.digits.take n) } else d

/-- The first `n` digits and one more in the last place. -/
def up (d : Digits) (n : Nat) : Digits :=
  if n < d.digits.length then
    match (d.digits.take n).reverse.dropWhile (· = '9') with
    | [] => ⟨['1'], d.point + 1⟩
    | c :: r => { d with digits := (Char.ofNat (c.toNat + 1) :: r).reverse }
  else d

/-- The nearer of the two; from the middle to the even digit. -/
def nearest (d : Digits) (n : Nat) : Digits :=
  match d.digits.drop n with
  | [] => d
  | ['5'] =>
    match (d.digits.take n).getLast? with
    | some c => if c.toNat % 2 = 1 then d.up n else d.down n
    | none => d.down n
  | c :: _ => if '5' ≤ c then d.up n else d.down n

/-- Cuts digits as soon as a shorter number lies between two bounds. The lists hold the digits of the
number and of the bounds from the place `n` on; the flag tells whether the bounds belong to the
numbers between them. -/
def shorten (d : Digits) (isInclusive : Bool) : Nat → List Char → List Char → List Char → Digits
  | _, [], _, _ => d
  | n, m :: ms, lower, upper =>
    let l := lower.headD '0'
    let u := upper.headD '0'
    let isDown := l != m || (isInclusive && lower.length == 1)
    let isUp := m != u && (isInclusive || m.toNat + 1 < u.toNat || 1 < upper.length)
    if isDown && isUp then d.nearest (n + 1)
    else if isDown then d.down (n + 1)
    else if isUp then d.up (n + 1)
    else shorten d isInclusive (n + 1) ms lower.tail upper.tail

/-- The fewest digits for a number of a precision. The bounds are the middles between the number and
its neighbours. -/
def shortest (precision m : Nat) (e : Int) : Digits :=
  let s := precision + 1 - bits m
  let half := m <<< s
  let k := e - s
  let d := exact m e
  d.shorten (half / 2 % 2 == 0) 0 d.digits (exact (half - 1) k).digits (exact (half + 1) k).digits

/-- The digits with the point in its place. -/
def text (d : Digits) : List Char :=
  let places := d.digits.length - d.point
  let whole :=
    if d.point ≤ 0 then ['0']
    else d.digits.take d.point.toNat ++ List.replicate (d.point.toNat - d.digits.length) '0'
  if places ≤ 0 then whole
  else whole ++ '.' :: (List.replicate (-d.point).toNat '0' ++ d.digits.drop d.point.toNat)

end Digits

def text : Number → String
  | infinite s => if s then "-Inf" else "+Inf"
  | finite s m e p =>
    let ds := if m = 0 then ['0'] else (Digits.shortest p m e).text
    String.ofList (if s then '-' :: ds else ds)

end TapeWasm.Settings.Number
