import TapeWasm.Settings.Expr.Template
import TapeWasm.Settings.Token

/-!
Reading expressions from tokens. Inside parentheses, brackets and texts the ends of lines do not
matter; inside the braces of an object they do.
-/
namespace TapeWasm.Settings.Expr

def skipNewlines : List Token → List Token
  | .newline :: r => skipNewlines r
  | ts => ts

/-- The tokens as they are seen where ends of lines matter, or do not. -/
def view (hasLines : Bool) (ts : List Token) : List Token :=
  if hasLines then ts else skipNewlines ts

def named : String → Expr
  | "true" => literal (.boolean true)
  | "false" => literal (.boolean false)
  | "null" => literal (.null .any)
  | s => name s

/-- The names that go through a source: that of the key, if there is one, and that of the value. -/
def names? : List Token → Option (Option String × String × List Token)
  | .word n :: r =>
    match skipNewlines r with
    | .mark ',' :: r =>
      match skipNewlines r with
      | .word m :: r =>
        match skipNewlines r with
        | .word "in" :: r => some (some n, m, r)
        | _ => none
      | _ => none
    | .word "in" :: r => some (none, n, r)
    | _ => none
  | _ => none

/-- The rest of a function's name, up to the opening parenthesis. -/
def callName : Nat → Bool → List Token → Option (List Token)
  | 0, _, _ => none
  | fuel + 1, hasLines, ts =>
    match view hasLines ts with
    | .mark '(' :: r => some r
    | .doubleColon :: r =>
      match view hasLines r with
      | .word _ :: r' => callName fuel hasLines r'
      | _ => none
    | _ => none

/-- Whether a word before these tokens is the name of a function. -/
def startsCall : List Token → Bool
  | .mark '(' :: _ | .doubleColon :: _ => true
  | _ => false

def expect (c : Char) (hasLines : Bool) (ts : List Token) : Option (List Token) :=
  match view hasLines ts with
  | .mark d :: r => if d = c then some r else none
  | _ => none

mutual

def parse : Nat → Bool → List Token → Option (Expr × List Token)
  | 0, _, _ => none
  | fuel + 1, hasLines, ts =>
    match operation fuel 0 hasLines ts with
    | none => none
    | some (e, r) =>
      match view hasLines r with
      | .mark '?' :: r' =>
        match parse fuel hasLines r' with
        | none => none
        | some (yes, r') =>
          match expect ':' hasLines r' with
          | none => none
          | some r' => (parse fuel hasLines r').map fun (no, r') => (choice e yes no, r')
      | _ => some (e, r)

def operation : Nat → Nat → Bool → List Token → Option (Expr × List Token)
  | 0, _, _, _ => none
  | fuel + 1, level, hasLines, ts =>
    if level < Operator.levels then
      match operation fuel (level + 1) hasLines ts with
      | some (e, r) => operations fuel level hasLines e r
      | none => none
    else
      match term fuel hasLines ts with
      | some (e, r) => selections fuel hasLines e r
      | none => none

def operations : Nat → Nat → Bool → Expr → List Token → Option (Expr × List Token)
  | 0, _, _, _, _ => none
  | fuel + 1, level, hasLines, e, ts =>
    match view hasLines ts with
    | .operator o :: r =>
      if o.level = level then
        match operation fuel (level + 1) hasLines r with
        | some (e', r') => operations fuel level hasLines (binary o e e') r'
        | none => none
      else some (e, ts)
    | _ => some (e, ts)

/-- One operand, without what is selected from it. -/
def term : Nat → Bool → List Token → Option (Expr × List Token)
  | 0, _, _ => none
  | fuel + 1, hasLines, ts =>
    match view hasLines ts with
    | .mark '(' :: r =>
      match parse fuel false r with
      | some (e, r') => (expect ')' false r').map fun r' => (grouped e, r')
      | none => none
    | .number x _ :: r => some (literal (.number x), r)
    | .word n :: r =>
      if startsCall (view hasLines r) then
        match callName fuel hasLines r with
        | some r' => (arguments fuel r').map fun r' => (invalid, r')
        | none => none
      else some (named n, r)
    | .openQuote :: r =>
      match parts fuel .closeQuote r false false [] with
      | some (ps, r') => (Part.toExpr? ps false).map fun e => (e, r')
      | none => none
    | .openLines isFlush :: r =>
      match parts fuel .closeLines r false false [] with
      | some (ps, r') => (Part.toExpr? ps isFlush).map fun e => (e, r')
      | none => none
    | .operator .subtract :: r =>
      match term fuel hasLines r with
      | some (e, r') => (selections fuel hasLines e r').map fun (e, r') => (negate e, r')
      | none => none
    | .mark '!' :: r =>
      match term fuel hasLines r with
      | some (e, r') => (selections fuel hasLines e r').map fun (e, r') => (invert e, r')
      | none => none
    | .mark '[' :: r =>
      match skipNewlines r with
      | .word "for" :: r' => collection fuel ']' r'
      | _ => (members fuel r []).map fun (es, r') => (tuple es, r')
    | .mark '\x7b' :: r =>
      match skipNewlines r with
      | .word "for" :: r' => collection fuel '\x7d' r'
      | _ => (fields fuel r []).map fun (fs, r') => (object fs, r')
    | _ => none

def selections : Nat → Bool → Expr → List Token → Option (Expr × List Token)
  | 0, _, _, _ => none
  | fuel + 1, hasLines, e, ts =>
    match view hasLines ts with
    | .mark '.' :: r =>
      match view hasLines r with
      | .word n :: r' => selections fuel hasLines (field e n) r'
      | .number x false :: r' => selections fuel hasLines (index e (literal (.number x))) r'
      | .operator .multiply :: r' =>
        match fieldSelections fuel hasLines member r' with
        | some (each, r') => selections fuel hasLines (every e each) r'
        | none => none
      | _ => none
    | .mark '[' :: r =>
      match view hasLines r with
      | .operator .multiply :: r' =>
        match expect ']' hasLines r' with
        | some r' =>
          match selections fuel hasLines member r' with
          | some (each, r') => selections fuel hasLines (every e each) r'
          | none => none
        | none => none
      | _ =>
        match parse fuel false r with
        | some (key, r') =>
          match expect ']' false r' with
          | some r' => selections fuel hasLines (index e key) r'
          | none => none
        | none => none
    | _ => some (e, ts)

def fieldSelections : Nat → Bool → Expr → List Token → Option (Expr × List Token)
  | 0, _, _, _ => none
  | fuel + 1, hasLines, e, ts =>
    match view hasLines ts with
    | .mark '.' :: r =>
      match view hasLines r with
      | .word n :: r' => fieldSelections fuel hasLines (field e n) r'
      | .number x false :: r' => fieldSelections fuel hasLines (index e (literal (.number x))) r'
      | _ => none
    | _ => some (e, ts)

def arguments : Nat → List Token → Option (List Token)
  | 0, _ => none
  | fuel + 1, ts =>
    match skipNewlines ts with
    | .mark ')' :: r => some r
    | ts =>
      match parse fuel false ts with
      | none => none
      | some (_, r) =>
        match skipNewlines r with
        | .mark ')' :: r => some r
        | .mark ',' :: r => arguments fuel r
        | .ellipsis :: r => expect ')' false r
        | _ => none

def members : Nat → List Token → List Expr → Option (List Expr × List Token)
  | 0, _, _ => none
  | fuel + 1, ts, acc =>
    match skipNewlines ts with
    | .mark ']' :: r => some (acc.reverse, r)
    | ts =>
      match parse fuel false ts with
      | none => none
      | some (e, r) =>
        match skipNewlines r with
        | .mark ']' :: r => some ((e :: acc).reverse, r)
        | .mark ',' :: r => members fuel r (e :: acc)
        | _ => none

/-- The fields of an object, up to the closing brace. A key in parentheses is never a name. -/
def fields : Nat → List Token → List (Expr × Expr) → Option (List (Expr × Expr) × List Token)
  | 0, _, _ => none
  | fuel + 1, ts, acc =>
    match ts with
    | .newline :: r => fields fuel r acc
    | .mark '\x7d' :: r => some (acc.reverse, r)
    | ts =>
      match parse fuel true ts with
      | none => none
      | some (e, r) =>
        let key := if ts.head? = some (.mark '(') then e else e.asKey
        match r with
        | .mark '=' :: r | .mark ':' :: r =>
          match parse fuel true r with
          | some (v, .mark '\x7d' :: r) => some (((key, v) :: acc).reverse, r)
          | some (v, .mark ',' :: r) | some (v, .newline :: r) => fields fuel r ((key, v) :: acc)
          | _ => none
        | _ => none

/-- The rest of a tuple or object that goes through a source, up to the closing mark. -/
def collection : Nat → Char → List Token → Option (Expr × List Token)
  | 0, _, _ => none
  | fuel + 1, closing, ts =>
    match names? (skipNewlines ts) with
    | none => none
    | some (key, n, r) =>
      match parse fuel false r with
      | none => none
      | some (source, r) =>
        match expect ':' false r with
        | none => none
        | some r =>
          match parse fuel false r with
          | none => none
          | some (first, r) =>
            let second :=
              match skipNewlines r with
              | .arrow :: r => (parse fuel false r).map fun (e, r) => (some e, r)
              | _ => some (none, r)
            match second with
            | none => none
            | some (value, r) =>
              let (isGrouped, r) : Bool × List Token :=
                match skipNewlines r with
                | .ellipsis :: r => (true, r)
                | _ => (false, r)
              let condition :=
                match skipNewlines r with
                | .word "if" :: r => parse fuel false r
                | _ => some (literal (.boolean true), r)
              match condition with
              | none => none
              | some (condition, r) =>
                match expect closing false r with
                | none => none
                | some r =>
                  match value with
                  | none =>
                    if closing = ']' ∧ ¬isGrouped then
                      some (collect key n source first condition, r)
                    else none
                  | some value =>
                    if closing = '\x7d' then
                      some (collectFields key n source first value isGrouped condition, r)
                    else none

/-- The parts of a text, up to its closing token. The flags tell whether the next literal part loses
the white space that it starts with, and whether the last part is a literal one that may lose the
white space that it ends with. -/
def parts : Nat → Token → List Token → Bool → Bool → List Part → Option (List Part × List Token)
  | 0, _, _, _, _, _ => none
  | fuel + 1, closing, ts, trims, isAfterLiteral, acc =>
    match ts with
    | .literal cs :: r =>
      parts fuel closing r false true (.literal (if trims then Part.trimLeft cs else cs) :: acc)
    | .openValue trimsLast :: r =>
      let acc := if trimsLast && isAfterLiteral then Part.trimLast acc else acc
      match parse fuel false r with
      | none => none
      | some (e, r) =>
        match skipNewlines r with
        | .closeSequence trims :: r => parts fuel closing r trims false (.value e :: acc)
        | _ => none
    | .openDirective trimsLast :: r =>
      let acc := if trimsLast && isAfterLiteral then Part.trimLast acc else acc
      match directive fuel (skipNewlines r) with
      | none => none
      | some (p, r) =>
        match skipNewlines r with
        | .closeSequence trims :: r => parts fuel closing r trims false (p :: acc)
        | _ => none
    | t :: r => if t = closing then some (acc.reverse, r) else none
    | [] => none

def directive : Nat → List Token → Option (Part × List Token)
  | 0, _ => none
  | fuel + 1, ts =>
    match ts with
    | .word "if" :: r => (parse fuel false r).map fun (e, r) => (.openIf e, r)
    | .word "else" :: r => some (.otherwise, r)
    | .word "endif" :: r => some (.closeIf, r)
    | .word "for" :: r =>
      match names? (skipNewlines r) with
      | some (key, n, r) => (parse fuel false r).map fun (e, r) => (.openFor key n e, r)
      | none => none
    | .word "endfor" :: r => some (.closeFor, r)
    | _ => none

end

/-- Enough for any expression: a token is passed after at most twelve calls. -/
def parseFuel (ts : List Token) : Nat :=
  12 * ts.length + 12

end TapeWasm.Settings.Expr
