import TapeWasm.Settings.Expr
import TapeWasm.Text.Character
import TapeWasm.Text.Grapheme

/-!
Texts with values and directives in them: the parts as they are written, and the expression that they
make up.
-/
namespace TapeWasm.Settings

inductive Part where
  | literal (cs : List Char)
  | value (e : Expr)
  | openIf (condition : Expr)
  | otherwise
  | closeIf
  | openFor (key : Option String) (name : String) (source : Expr)
  | closeFor

namespace Part

def trimLeft (cs : List Char) : List Char :=
  cs.dropWhile Text.isBlank

def trimRight (cs : List Char) : List Char :=
  (cs.reverse.dropWhile Text.isBlank).reverse

def trimLast : List Part → List Part
  | .literal cs :: r => .literal (trimRight cs) :: r
  | ps => ps

/-! ### Common indentation -/

/-- Passes over so many visible characters. -/
def dropClusters : Nat → Text.Context → List Char → List Char
  | _, _, [] => []
  | n, context, c :: r =>
    let k := Text.BreakClass.of c
    if context.joins k then dropClusters n (context.after k) r
    else
      match n with
      | 0 => c :: r
      | n + 1 => dropClusters n (Text.Context.plain.after k) r

/-- How many visible characters a piece of white space has: a line end counts once. -/
def clusterCount : List Char → Nat
  | '\r' :: '\n' :: r => clusterCount r + 1
  | _ :: r => clusterCount r + 1
  | [] => 0

/-- The indentation of a part that starts a line; lines of white space have none. -/
def indentation? : Part → Option Nat
  | .literal cs =>
    if cs.all Text.isBlank && cs.getLast? == some '\n' then none
    else some (clusterCount (cs.takeWhile Text.isBlank))
  | _ => some 0

def endsLine : Part → Bool
  | .literal cs => cs.getLast? == some '\n'
  | _ => false

/-- The parts, each with whether it starts a line. -/
def withStarts : List Part → Bool → List (Part × Bool)
  | [], _ => []
  | p :: r, isStart => (p, isStart) :: withStarts r p.endsLine

def outdent (n : Nat) : Part × Bool → Part
  | (.literal cs, true) =>
    if (indentation? (.literal cs)).isSome then
      .literal (dropClusters n .control cs)
    else .literal cs
  | (p, _) => p

/-- The parts without the indentation that all lines have in common. -/
def flush (ps : List Part) : List Part :=
  let marked := withStarts ps true
  match (marked.filter (·.2)).filterMap fun (p, _) => indentation? p with
  | [] => ps
  | n :: ns => marked.map (outdent (ns.foldl min n))

/-! ### The expression -/

def meld : List Part → List Part
  | [] => []
  | .literal cs :: r =>
    match meld r with
    | .literal ds :: r' => .literal (cs ++ ds) :: r'
    | r' => .literal cs :: r'
  | p :: r => p :: meld r

def ofParts : List Expr → Expr
  | [] => .template [.ofText ""]
  | es => .template es

/-- The expressions of the parts up to a closing directive, and what comes from there on. -/
def sequence : Nat → List Part → List Expr → Option (List Expr × List Part)
  | 0, _, _ => none
  | fuel + 1, ps, acc =>
    match ps with
    | .literal cs :: r => sequence fuel r (.literal (.ofChars cs) :: acc)
    | .value e :: r => sequence fuel r (e :: acc)
    | .openIf condition :: r =>
      match sequence fuel r [] with
      | some (yes, .closeIf :: r') =>
        sequence fuel r' (.choice condition (ofParts yes) (ofParts []) :: acc)
      | some (yes, .otherwise :: r') =>
        match sequence fuel r' [] with
        | some (no, .closeIf :: r'') =>
          sequence fuel r'' (.choice condition (ofParts yes) (ofParts no) :: acc)
        | _ => none
      | _ => none
    | .openFor key name source :: r =>
      match sequence fuel r [] with
      | some (body, .closeFor :: r') =>
        sequence fuel r'
          (.joined (.collect key name source (ofParts body) (.literal (.boolean true))) :: acc)
      | _ => none
    | ps => some (acc.reverse, ps)

/-- The expression that the parts make up. A text that is nothing but a value is that value. -/
def toExpr? (ps : List Part) (isFlush : Bool) : Option Expr :=
  let ps := if ps.isEmpty then [.literal []] else ps
  let ps := meld (if isFlush then flush ps else ps)
  match ps with
  | [.value e] => some (.grouped e)
  | ps =>
    match sequence (ps.length + 1) ps [] with
    | some (es, []) => some (.template es)
    | _ => none

end Part
end TapeWasm.Settings
