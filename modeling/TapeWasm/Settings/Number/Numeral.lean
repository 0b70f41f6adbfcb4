import TapeWasm.Settings.Number

/-!
Reading numbers. A numeral has digits, with a point among or around them, and may have an exponent of
ten or, with the letter p, of two.
-/
namespace TapeWasm.Settings.Number

/-- A power of five with at most so many bits, from a power that is already known and the square that
the next bit of the exponent stands for. -/
def powerOfFive : Nat → Nat → Nat × Int → Nat × Int → Nat × Int
  | 0, _, z, _ => z
  | fuel + 1, n, (m, e), (f, k) =>
    if n = 0 then (m, e)
    else
      let z := if n % 2 = 1 then shorten (fullPrecision + 64) (m * f) (e + k) else (m, e)
      powerOfFive fuel (n / 2) z (shorten (fullPrecision + 128) (f * f) (k + k))

/-- The power of five with a large exponent, to some bits more than a number has. -/
def fiveTo (n : Nat) : Nat × Int :=
  if n ≤ 27 then (Nat.pow 5 n, 0) else powerOfFive (bits n) (n - 27) (Nat.pow 5 27, 0) (5, 0)

/-- The number `m * 2 ^ two * 5 ^ five`. -/
def ofPowers (isNegative : Bool) (m : Nat) (two five : Int) : Number :=
  if five = 0 then rounded fullPrecision isNegative m two
  else
    let (f, k) := fiveTo five.natAbs
    if 0 < five then rounded fullPrecision isNegative (m * f) (two + k)
    else
      let (q, e) := quotient fullPrecision m two f k
      rounded fullPrecision isNegative q e

def digitsValue (cs : List Char) : Nat :=
  cs.foldl (fun n c => n * 10 + (c.toNat - '0'.toNat)) 0

def sign : List Char → Bool × List Char
  | '-' :: r => (true, r)
  | '+' :: r => (false, r)
  | r => (false, r)

/-- The exponent that a numeral ends with, and whether it is one of two. It fits into 64 bits. -/
def exponent? : List Char → Option (Int × Bool)
  | [] => some (0, false)
  | c :: r =>
    let isTwo := c = 'p' ∨ c = 'P'
    let (isNegative, ds) := sign r
    if (isTwo ∨ c = 'e' ∨ c = 'E') ∧ ds ≠ [] ∧ ds.all Char.isDigit then
      let n := digitsValue ds
      let bound := if isNegative then Nat.pow 2 63 else Nat.pow 2 63 - 1
      if n ≤ bound then some (signed isNegative n, isTwo) else none
    else none

def parse? (cs : List Char) : Option Number :=
  let (isNegative, r) := sign cs
  if r = ['I', 'n', 'f'] ∨ r = ['i', 'n', 'f'] then some (infinite isNegative)
  else
    let whole := r.takeWhile Char.isDigit
    let r := r.dropWhile Char.isDigit
    let (part, r) : List Char × List Char :=
      match r with
      | '.' :: r => (r.takeWhile Char.isDigit, r.dropWhile Char.isDigit)
      | r => ([], r)
    if whole = [] ∧ part = [] then none
    else
      match exponent? r with
      | none => none
      | some (e, isTwo) =>
        let m := digitsValue (whole ++ part)
        let five : Int := (if isTwo then 0 else e) - part.length
        let two : Int := e - part.length
        if m = 0 then some (finite isNegative 0 0 fullPrecision)
        else if bits m + two < minTop ∨ maxTop < bits m + two then none
        else some (ofPowers isNegative m two five)

end TapeWasm.Settings.Number
