import TapeWasm.Settings.Expr.Parse

/-!
Settings files as documents: attributes with expressions, and blocks of them.
-/
namespace TapeWasm.Settings

inductive Item where
  | attribute (name : String) (e : Expr)
  | block (name : String) (isLabelled : Bool) (body : List Item)

namespace Document

def hasAttribute (name : String) : List Item → Bool
  | [] => false
  | .attribute n _ :: r => n == name || hasAttribute name r
  | .block _ _ _ :: r => hasAttribute name r

/-- The rest of a label in quotes, which is plain text. -/
def quotedLabel : List Token → Option (List Token)
  | .literal _ :: r => quotedLabel r
  | .closeQuote :: r => some r
  | _ => none

/-- The labels of a block and its opening brace: whether there are labels, and what follows. The
number bounds the labels. -/
def blockHead : Nat → List Token → Bool → Option (Bool × List Token)
  | 0, _, _ => none
  | fuel + 1, ts, isLabelled =>
    match ts with
    | .word _ :: r => blockHead fuel r true
    | .openQuote :: r =>
      match quotedLabel r with
      | some r' => blockHead fuel r' true
      | none => none
    | .mark '\x7b' :: r => some (isLabelled, r)
    | _ => none

/-- What follows the end of a line, which has to come here. -/
def lineEnd : List Token → Option (List Token)
  | [] => some []
  | .newline :: r => some r
  | _ => none

mutual

/-- The items of a body, up to its closing brace or, of a whole file, up to the end. -/
def body : Nat → Bool → List Token → List Item → Option (List Item × List Token)
  | 0, _, _, _ => none
  | fuel + 1, isNested, ts, acc =>
    match ts with
    | [] => if isNested then none else some (acc.reverse, [])
    | .newline :: r => body fuel isNested r acc
    | .mark c :: r => if isNested && c = '\x7d' then some (acc.reverse, r) else none
    | .word name :: .mark '=' :: r =>
      match Expr.parse fuel true r with
      | none => none
      | some (e, r) =>
        match lineEnd r with
        | none => none
        | some r =>
          if hasAttribute name acc then none else body fuel isNested r (.attribute name e :: acc)
    | .word name :: r =>
      match blockHead fuel r false with
      | none => none
      | some (isLabelled, r) =>
        match blockBody fuel r with
        | none => none
        | some (items, r) =>
          match lineEnd r with
          | none => none
          | some r => body fuel isNested r (.block name isLabelled items :: acc)
    | _ => none

/-- The body of a block. On one line it holds at most one attribute. -/
def blockBody : Nat → List Token → Option (List Item × List Token)
  | 0, _ => none
  | fuel + 1, ts =>
    match ts with
    | .word name :: .mark '=' :: r =>
      match Expr.parse fuel true r with
      | some (e, .mark '\x7d' :: r) => some ([.attribute name e], r)
      | _ => none
    | .newline :: _ | .mark '\x7d' :: _ => body fuel true ts []
    | _ => none

end

def parse? (source : Bytes) : Option (List Item) := do
  let ts ← Token.scan? source
  let (items, _) ← body (Expr.parseFuel ts) false ts []
  return items

end Document
end TapeWasm.Settings
