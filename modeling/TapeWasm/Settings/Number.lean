/-!
Numbers in settings: binary fractions of a limited precision, with two infinities. Every operation is
exact first and then rounded once, a half to the even neighbour.
-/
namespace TapeWasm.Settings

/-- The number `mantissa * 2 ^ exponent` with its sign, where the mantissa has no more bits than the
precision says, or an infinity. -/
inductive Number where
  | finite (isNegative : Bool) (mantissa : Nat) (exponent : Int) (precision : Nat)
  | infinite (isNegative : Bool)
  deriving DecidableEq, Repr

namespace Number

def fullPrecision : Nat := 512

def indexPrecision : Nat := 64

def bits (n : Nat) : Nat :=
  if n = 0 then 0 else n.log2 + 1

/-- A mantissa and an exponent with at most so many bits, rounded to the nearest. -/
def shorten (precision m : Nat) (e : Int) : Nat × Int :=
  let s := bits m - precision
  if s = 0 then (m, e)
  else
    let q := m >>> s
    let r := m - (q <<< s)
    let half := 1 <<< (s - 1)
    let isUp := half < r || (r == half && q % 2 == 1)
    (if isUp then q + 1 else q, e + s)

/-- Where the binary point may stand in a finite number, counted from its first bit. -/
def maxTop : Int := Int32.maxValue.toInt

def minTop : Int := Int32.minValue.toInt

/-- The nearest number of a precision. Numbers out of range become infinite or zero. -/
def rounded (precision : Nat) (isNegative : Bool) (m : Nat) (e : Int) : Number :=
  let (m', e') := shorten precision m e
  if m' = 0 then finite isNegative 0 0 precision
  else if maxTop < bits m' + e' then infinite isNegative
  else if bits m' + e' < minTop then finite isNegative 0 0 precision
  else finite isNegative m' e' precision

def ofNat (n : Nat) : Number :=
  rounded fullPrecision false n 0

def ofIndex (i : Nat) : Number :=
  rounded indexPrecision false i 0

def isNegative : Number → Bool
  | finite s _ _ _ => s
  | infinite s => s

def precision : Number → Nat
  | finite _ _ _ p => p
  | infinite _ => fullPrecision

def negate : Number → Number
  | finite s m e p => finite (!s) m e p
  | infinite s => infinite !s

@[simp] theorem negate_negate (x : Number) : x.negate.negate = x := by
  cases x <;> simp [negate]

def signed (isNegative : Bool) (m : Nat) : Int :=
  if isNegative then -m else m

/-- Two mantissas brought to one exponent. What lies far below the first one counts as a single bit
below its last bits. -/
def aligned (precision m : Nat) (e : Int) (m' : Nat) (e' : Int) : Nat × Nat × Int :=
  let guard := precision + 2
  if e' ≤ e then
    if m ≠ 0 ∧ m' ≠ 0 ∧ bits m' + e' < e - guard then (m <<< guard, 1, e - guard)
    else (m <<< (e - e').toNat, m', e')
  else
    if m ≠ 0 ∧ m' ≠ 0 ∧ bits m + e < e' - guard then (1, m' <<< guard, e' - guard)
    else (m, m' <<< (e' - e).toNat, e)

/-- The sum, if it is one: infinities of different signs have none. -/
def add? : Number → Number → Option Number
  | infinite s, infinite s' => if s = s' then some (infinite s) else none
  | infinite s, finite _ _ _ _ => some (infinite s)
  | finite _ _ _ _, infinite s => some (infinite s)
  | finite s m e p, finite s' m' e' p' =>
    let p'' := max p p'
    if m = 0 ∧ m' = 0 then some (finite (s && s') 0 0 p'')
    else if m = 0 then some (rounded p'' s' m' e')
    else if m' = 0 then some (rounded p'' s m e)
    else
      let (a, b, k) := aligned p'' m e m' e'
      let sum := signed s a + signed s' b
      some (rounded p'' (sum < 0) sum.natAbs k)

def subtract? (x y : Number) : Option Number :=
  add? x y.negate

/-- A mantissa without the zeros that it ends with, of which there are at most so many. -/
def oddPart : Nat → Nat → Nat
  | 0, m => m
  | n + 1, m => if m ≠ 0 ∧ m % 2 = 0 then oddPart n (m / 2) else m

/-- The product, if it is one: zero times an infinity is none. It has the precision of its factors,
or as many bits more as it needs. -/
def multiply? : Number → Number → Option Number
  | finite s m e p, finite s' m' e' p' =>
    match rounded fullPrecision (s != s') (m * m') (e + e') with
    | finite t n k _ =>
      let needed := bits (oddPart (bits n) n)
      some (finite t n k (max (max p p') needed))
    | x => some x
  | finite s m _ _, infinite s' => if m = 0 then none else some (infinite (s != s'))
  | infinite s, finite s' m _ _ => if m = 0 then none else some (infinite (s != s'))
  | infinite s, infinite s' => some (infinite (s != s'))

/-- The quotient of two mantissas other than zero, with enough bits to round it and a last bit that
tells whether something is left over. -/
def quotient (precision m : Nat) (e : Int) (m' : Nat) (e' : Int) : Nat × Int :=
  let s := precision + 2 + bits m' - bits m
  let n := m <<< s
  (2 * (n / m') + (if n % m' = 0 then 0 else 1), e - e' - s - 1)

/-- The quotient, if it is one. Zero by zero and infinity by infinity are none; any other number by
zero is infinite. -/
def divide? : Number → Number → Option Number
  | finite s m e p, finite s' m' e' p' =>
    if m' = 0 then if m = 0 then none else some (infinite (s != s'))
    else if m = 0 then some (finite (s != s') 0 0 (max p p'))
    else
      let (q, k) := quotient (max p p') m e m' e'
      some (rounded (max p p') (s != s') q k)
  | finite s _ _ p, infinite s' => some (finite (s != s') 0 0 p)
  | infinite s, finite s' _ _ _ => some (infinite (s != s'))
  | infinite _, infinite _ => none

def wholePart (m : Nat) (e : Int) : Nat :=
  if 0 ≤ e then m <<< e.toNat else m >>> (-e).toNat

/-- What is left when the second number is taken from the first as often as it fits. A number modulo
zero is itself. -/
def modulo? (x y : Number) : Option Number :=
  match x, y with
  | finite s m e p, finite s' m' e' _ =>
    if m' = 0 then some x
    else
      match divide? x y with
      | some (finite t n k _) =>
        match rounded p t (wholePart n k) 0 with
        | finite t n k _ =>
          match rounded p (s' != t) (m' * n) (e' + k) with
          | finite t n k _ =>
            (subtract? (finite s m e p) (finite t n k p)).map fun
              | finite t n k _ => finite t n k p
              | x => x
          | _ => none
        | _ => none
      | _ => none
  | _, _ => none

def compareSizes (m : Nat) (e : Int) (m' : Nat) (e' : Int) : Ordering :=
  if m = 0 ∨ m' = 0 then compare m m'
  else
    match compare (bits m + e) (bits m' + e') with
    | .eq =>
      if e' ≤ e then compare (m <<< (e - e').toNat) m' else compare m (m' <<< (e' - e).toNat)
    | o => o

def compare : Number → Number → Ordering
  | infinite s, infinite s' => if s = s' then .eq else if s then .lt else .gt
  | infinite s, finite _ _ _ _ => if s then .lt else .gt
  | finite _ _ _ _, infinite s => if s then .gt else .lt
  | finite s m e _, finite s' m' e' _ =>
    if m = 0 ∧ m' = 0 then .eq
    else if m = 0 then if s' then .gt else .lt
    else if m' = 0 then if s then .lt else .gt
    else if s != s' then if s then .lt else .gt
    else if s then compareSizes m' e' m e
    else compareSizes m e m' e'

/-- The number as a natural number below a bound, if it is one. -/
def below? (bound : Nat) : Number → Option Nat
  | infinite _ => none
  | finite s m e _ =>
    if m = 0 then some 0
    else if s ∨ bits bound < bits m + e then none
    else if 0 ≤ e then
      let n := m <<< e.toNat
      if n < bound then some n else none
    else
      let n := m >>> (-e).toNat
      if n <<< (-e).toNat = m ∧ n < bound then some n else none

end Number
end TapeWasm.Settings
