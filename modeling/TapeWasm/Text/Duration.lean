/-!
Lengths of time: how they are written, and how they are read.
-/
namespace TapeWasm

/-- A length of time in nanoseconds, of 64 bits with sign. -/
structure Duration where
  nanoseconds : Int
  deriving DecidableEq, Repr

namespace Duration

def longest : Int := Int64.maxValue.toInt

/-- The nearest multiple of a microsecond; a half goes away from zero. A multiple that is out of
reach gives way to the longest length of time. -/
def toMicroseconds (d : Duration) : Duration :=
  let n := d.nanoseconds.natAbs
  let rounded : Int := ((n + 500) / 1000 * 1000 : Nat)
  ⟨if d.nanoseconds < 0 then max (-rounded) (-longest - 1) else min rounded longest⟩

/-- A number of units, each of `10 ^ places` parts, as a decimal with as few places as needed. -/
def decimalText (n places : Nat) : String :=
  let whole := toString (n / Nat.pow 10 places)
  let part := n % Nat.pow 10 places
  if part = 0 then whole
  else
    let ds := (toString part).toList
    let ds := List.replicate (places - ds.length) '0' ++ ds
    whole ++ "." ++ String.ofList (ds.reverse.dropWhile (· = '0')).reverse

/-- Below a second one unit fits all; above, hours, minutes and seconds, from the first that is not
zero on. -/
def text (d : Duration) : String :=
  let n := d.nanoseconds.natAbs
  let sign := if d.nanoseconds < 0 then "-" else ""
  if n = 0 then "0s"
  else if n < 1000 then sign ++ toString n ++ "ns"
  else if n < 1000000 then sign ++ decimalText n 3 ++ "µs"
  else if n < 1000000000 then sign ++ decimalText n 6 ++ "ms"
  else
    let minutes := n / 60000000000
    let hours := minutes / 60
    let seconds := decimalText (n % 60000000000) 9 ++ "s"
    sign ++
      (if 0 < hours then toString hours ++ "h" ++ toString (minutes % 60) ++ "m" ++ seconds
       else if 0 < minutes then toString minutes ++ "m" ++ seconds
       else seconds)

def unit? : List Char → Option Nat
  | ['n', 's'] => some 1
  | ['u', 's'] | ['µ', 's'] | ['μ', 's'] => some 1000
  | ['m', 's'] => some 1000000
  | ['s'] => some 1000000000
  | ['m'] => some 60000000000
  | ['h'] => some 3600000000000
  | _ => none

def digitsValue (ds : List Char) : Nat :=
  ds.foldl (fun n c => n * 10 + (c.toNat - '0'.toNat)) 0

/-- One number with its unit, in nanoseconds, and what follows. -/
def leading? (cs : List Char) : Option (Nat × List Char) :=
  let whole := cs.takeWhile Char.isDigit
  let r := cs.dropWhile Char.isDigit
  let (part, r) : List Char × List Char :=
    match r with
    | '.' :: r' => (r'.takeWhile Char.isDigit, r'.dropWhile Char.isDigit)
    | _ => ([], r)
  if whole = [] ∧ part = [] then none
  else
    let name := r.takeWhile fun c => c ≠ '.' && !c.isDigit
    match unit? name with
    | none => none
    | some u =>
      if digitsValue whole ≤ Nat.pow 2 63 then
        some (digitsValue whole * u + digitsValue part * u / Nat.pow 10 part.length,
          r.drop name.length)
      else none

/-- Numbers with units up to the end. -/
def sum? : Nat → List Char → Nat → Option Nat
  | _, [], total => some total
  | 0, _, _ => none
  | fuel + 1, cs, total =>
    match leading? cs with
    | some (n, r) => if total + n ≤ Nat.pow 2 63 then sum? fuel r (total + n) else none
    | none => none

/-- Reads a length of time: numbers, each with its unit, after at most one sign. Zero needs no
unit. -/
def parse? (s : String) : Option Duration :=
  let (isNegative, cs) : Bool × List Char :=
    match s.toList with
    | '-' :: r => (true, r)
    | '+' :: r => (false, r)
    | cs => (false, cs)
  match cs with
  | [] => none
  | ['0'] => some ⟨0⟩
  | _ =>
    match sum? cs.length cs 0 with
    | none => none
    | some n =>
      if isNegative then some ⟨-(n : Int)⟩
      else if (n : Int) ≤ longest then some ⟨n⟩
      else none

end Duration
end TapeWasm
