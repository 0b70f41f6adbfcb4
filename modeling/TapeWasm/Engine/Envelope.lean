import TapeWasm.Fault.Stage
import TapeWasm.Wasm.Varint

/-!
Stored objects: a mark of four bytes, then the body with the module it was compiled from, the
strategy, the host and what the compiler keeps for later runs.
-/
namespace TapeWasm

structure Envelope where
  format : Int
  strategy : String
  host : String
  digest : Bytes
  module : Bytes
  cache : List (String × Bytes)
  deriving DecidableEq, Repr

namespace Envelope

open Wasm (Varint.encodeU32 Varint.takeU32 Varint.encodeS64 Varint.takeS64)

/-- The first bytes of every stored object. -/
def magic : Bytes :=
  Bytes.ofString "BWCO"

/-- The first bytes of the body. -/
def bodyMark : Bytes :=
  Bytes.ofString "tape"

/-- The format that is written and read. -/
def currentFormat : Int := 1

def encodeField (b : Bytes) : Bytes :=
  Varint.encodeU32 (UInt32.ofNat b.length) ++ b

def encodeText (s : String) : Bytes :=
  encodeField (Bytes.ofString s)

def encodeBody (e : Envelope) : Bytes :=
  bodyMark ++ Varint.encodeS64 (Int64.ofInt e.format) ++ encodeText e.strategy ++
    encodeText e.host ++ encodeField e.digest ++ encodeField e.module ++
    Varint.encodeU32 (UInt32.ofNat e.cache.length) ++
    e.cache.flatMap fun (name, data) => encodeText name ++ encodeField data

def encode (e : Envelope) : Bytes :=
  magic ++ e.encodeBody

def count? (b : Bytes) : Option (Nat × Bytes) :=
  match Varint.takeU32 b with
  | .ok t => some (t.value.toNat, t.rest)
  | .error _ => none

def field? (b : Bytes) : Option (Bytes × Bytes) := do
  let (n, r) ← count? b
  let v := r.take n
  if v.length = n then return (v, r.drop n) else none

def text? (b : Bytes) : Option (String × Bytes) := do
  let (v, r) ← field? b
  return (← Bytes.toString? v, r)

def cache? : Nat → Bytes → Option (List (String × Bytes) × Bytes)
  | 0, b => some ([], b)
  | n + 1, b => do
    let (name, b) ← text? b
    let (data, b) ← field? b
    let (rest, b) ← cache? n b
    return ((name, data) :: rest, b)

/-- Reads a body, which nothing may follow. -/
def ofBody? (b : Bytes) : Option Envelope :=
  if b.take 4 = bodyMark then
    match Varint.takeS64 (b.drop 4) with
    | .error _ => none
    | .ok t => do
      let (strategy, b) ← text? t.rest
      let (host, b) ← text? b
      let (digest, b) ← field? b
      let (module, b) ← field? b
      let (n, b) ← count? b
      let (cache, b) ← cache? n b
      if b = [] then
        return { format := t.value.toInt, strategy, host, digest, module, cache }
      else none
  else none

def decode (b : Bytes) : Except Fault Envelope :=
  let head := b.take 4
  if head.length < 4 then
    .error (.stage
      { phase := Phase.load, kind := Kind.invalidData, detail := "truncated object header" }
      (some (.plain (if head = [] then "EOF" else "unexpected EOF"))))
  else if head ≠ magic then
    .error (.stage
      { phase := Phase.load
        kind := Kind.invalidData
        subject := some (.bytes head)
        detail := "not a compiled object (magic " ++ Text.quoteBytes head ++ ")" } none)
  else
    match ofBody? (b.drop 4) with
    | none =>
      .error (.wrap Phase.load Kind.invalidData (some (.plain "malformed body"))
        "decode object body")
    | some e =>
      if e.format ≠ currentFormat then
        .error (.invalidData Phase.load ("unsupported object format " ++ toString e.format))
      else .ok e

end Envelope
end TapeWasm
