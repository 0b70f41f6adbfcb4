import TapeWasm.Bytes

/-!
The SHA-256 digest of a byte string.
-/
namespace TapeWasm.Digest

structure Words where
  a : UInt32
  b : UInt32
  c : UInt32
  d : UInt32
  e : UInt32
  f : UInt32
  g : UInt32
  h : UInt32

namespace Words

def initial : Words where
  a := 0x6a09e667
  b := 0xbb67ae85
  c := 0x3c6ef372
  d := 0xa54ff53a
  e := 0x510e527f
  f := 0x9b05688c
  g := 0x1f83d9ab
  h := 0x5be0cd19

def add (x y : Words) : Words where
  a := x.a + y.a
  b := x.b + y.b
  c := x.c + y.c
  d := x.d + y.d
  e := x.e + y.e
  f := x.f + y.f
  g := x.g + y.g
  h := x.h + y.h

def toList (x : Words) : List UInt32 :=
  [x.a, x.b, x.c, x.d, x.e, x.f, x.g, x.h]

end Words

def roundConstants : List UInt32 :=
  [0x428a2f98, 0x71374491, 0xb5c0fbcf, 0xe9b5dba5, 0x3956c25b, 0x59f111f1, 0x923f82a4, 0xab1c5ed5,
   0xd807aa98, 0x12835b01, 0x243185be, 0x550c7dc3, 0x72be5d74, 0x80deb1fe, 0x9bdc06a7, 0xc19bf174,
   0xe49b69c1, 0xefbe4786, 0x0fc19dc6, 0x240ca1cc, 0x2de92c6f, 0x4a7484aa, 0x5cb0a9dc, 0x76f988da,
   0x983e5152, 0xa831c66d, 0xb00327c8, 0xbf597fc7, 0xc6e00bf3, 0xd5a79147, 0x06ca6351, 0x14292967,
   0x27b70a85, 0x2e1b2138, 0x4d2c6dfc, 0x53380d13, 0x650a7354, 0x766a0abb, 0x81c2c92e, 0x92722c85,
   0xa2bfe8a1, 0xa81a664b, 0xc24b8b70, 0xc76c51a3, 0xd192e819, 0xd6990624, 0xf40e3585, 0x106aa070,
   0x19a4c116, 0x1e376c08, 0x2748774c, 0x34b0bcb5, 0x391c0cb3, 0x4ed8aa4a, 0x5b9cca4f, 0x682e6ff3,
   0x748f82ee, 0x78a5636f, 0x84c87814, 0x8cc70208, 0x90befffa, 0xa4506ceb, 0xbef9a3f7, 0xc67178f2]

def rotateRight (x n : UInt32) : UInt32 :=
  (x >>> n) ||| (x <<< (32 - n))

def wordsOf : Bytes → List UInt32
  | a :: b :: c :: d :: r => Bytes.word d c b a :: wordsOf r
  | _ => []

def schedule : Nat → Array UInt32 → Array UInt32
  | 0, w => w
  | n + 1, w =>
    let back (k : Nat) := w.getD (w.size - k) 0
    let x := back 15
    let y := back 2
    let s := rotateRight x 7 ^^^ rotateRight x 18 ^^^ (x >>> 3)
    let t := rotateRight y 17 ^^^ rotateRight y 19 ^^^ (y >>> 10)
    schedule n (w.push (back 16 + s + back 7 + t))

def round (v : Words) (kw : UInt32 × UInt32) : Words :=
  let s := rotateRight v.e 6 ^^^ rotateRight v.e 11 ^^^ rotateRight v.e 25
  let choice := (v.e &&& v.f) ^^^ (~~~v.e &&& v.g)
  let t := v.h + s + choice + kw.1 + kw.2
  let u := rotateRight v.a 2 ^^^ rotateRight v.a 13 ^^^ rotateRight v.a 22
  let majority := (v.a &&& v.b) ^^^ (v.a &&& v.c) ^^^ (v.b &&& v.c)
  { a := t + u + majority, b := v.a, c := v.b, d := v.c, e := v.d + t, f := v.e, g := v.f, h := v.g }

def absorb (v : Words) (block : Bytes) : Words :=
  let w := schedule 48 (wordsOf block).toArray
  v.add ((roundConstants.zip w.toList).foldl round v)

def absorbAll : Nat → Words → Bytes → Words
  | 0, v, _ => v
  | n + 1, v, b => absorbAll n (absorb v (b.take 64)) (b.drop 64)

def bigEndian (width n : Nat) : Bytes :=
  (List.range width).reverse.map fun i => UInt8.ofNat (n >>> (8 * i))

/-- A byte string filled up to whole blocks, its length in bits at the end. -/
def padded (b : Bytes) : Bytes :=
  let n := b.length
  b ++ 0x80 :: List.replicate ((119 - n % 64) % 64) 0 ++ bigEndian 8 (8 * n)

def sha256 (b : Bytes) : Bytes :=
  let p := padded b
  (absorbAll (p.length / 64) .initial p).toList.flatMap fun w => bigEndian 4 w.toNat

end TapeWasm.Digest
