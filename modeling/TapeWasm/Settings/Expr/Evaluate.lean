import TapeWasm.Settings.Expr

/-!
The values of expressions. A fault in a part that is not chosen does no harm, so evaluation goes on
behind a fault and only remembers it.
-/
namespace TapeWasm.Settings

/-- What an evaluation finds: a value, and whether there was a fault on the way. -/
structure Finding where
  value : Value
  isFaulty : Bool := false

namespace Finding

def sound (v : Value) : Finding :=
  { value := v }

/-- A fault, behind which only the kind of the value can be known. -/
def fault (k : Kind) : Finding :=
  { value := .unknown k, isFaulty := true }

/-- A finding that depends on another one: its fault counts too. -/
def after (f g : Finding) : Finding :=
  { g with isFaulty := f.isFaulty || g.isFaulty }

end Finding

namespace Value

/-- The members selected by number, or the field by name. -/
def index (v key : Value) : Finding :=
  match v, key with
  | null _, _ | _, null _ => .fault .any
  | unknown .any, _ | _, unknown .any => .sound (unknown .any)
  | tuple vs, key | list _ vs, key =>
    match key.convert? .number with
    | some (number x) =>
      match (x.below? vs.length).bind (vs[·]?) with
      | some v => .sound v
      | none => .fault .any
    | some _ => .sound (unknown .any)
    | none => .fault .any
  | object fs, key | map _ fs, key =>
    match key.convert? .text with
    | some (text n) =>
      match fs.lookup n with
      | some v => .sound v
      | none => .fault .any
    | some _ => .sound (unknown .any)
    | none => .fault .any
  | unknown k, _ => if k.isCompound then .sound (unknown .any) else .fault .any
  | _, _ => .fault .any

def field (v : Value) (name : String) : Finding :=
  let n := Text.normalForm name
  match v with
  | object fs | map _ fs =>
    match fs.lookup n with
    | some v => .sound v
    | none => .fault .any
  | unknown .any => .sound (unknown .any)
  | unknown (.object fs) =>
    match fs.lookup n with
    | some k => .sound (unknown k)
    | none => .fault .any
  | unknown (.map k) => .sound (unknown k)
  | _ => .fault .any

end Value

/-- Names that stand for a value, the nearest first, and the member that a selection is at. -/
structure Scope where
  names : List (String × Value) := []
  member : Option Value := none

namespace Scope

def bind (s : Scope) (key : Option String) (name : String) (k v : Value) : Scope :=
  match key with
  | some n => { s with names := (name, v) :: (n, k) :: s.names }
  | none => { s with names := (name, v) :: s.names }

end Scope

namespace Operator

def kind : Operator → Kind
  | add | subtract | multiply | divide | modulo => .number
  | _ => .boolean

def applyNumbers : Operator → Number → Number → Option Value
  | add, x, y => (x.add? y).map .number
  | subtract, x, y => (x.subtract? y).map .number
  | multiply, x, y => (x.multiply? y).map .number
  | divide, x, y => (x.divide? y).map .number
  | modulo, x, y => (x.modulo? y).map .number
  | less, x, y => some (.boolean (x.compare y == .lt))
  | lessEqual, x, y => some (.boolean (x.compare y != .gt))
  | greater, x, y => some (.boolean (x.compare y == .gt))
  | greaterEqual, x, y => some (.boolean (x.compare y != .lt))
  | _, _, _ => none

def applyTruths : Operator → Bool → Bool → Option Value
  | and, a, b => some (.boolean (a && b))
  | or, a, b => some (.boolean (a || b))
  | _, _, _ => none

/-- The kind that both operands are converted to. -/
def operandKind : Operator → Kind
  | or | and => .boolean
  | equal | notEqual => .any
  | _ => .number

/-- An operator on two values, both already of its kind of operands. -/
def applyConverted (o : Operator) (v w : Value) : Finding :=
  match o with
  | equal =>
    .sound (match v.equal? w with
      | some b => .boolean b
      | none => .unknown .boolean)
  | notEqual =>
    .sound (match v.equal? w with
      | some b => .boolean !b
      | none => .unknown .boolean)
  | o =>
    if v.isNull || w.isNull then .fault o.kind
    else
      let result :=
        match v, w with
        | .number x, .number y => o.applyNumbers x y
        | .boolean a, .boolean b => o.applyTruths a b
        | _, _ => some (.unknown o.kind)
      match result with
      | some v => .sound v
      | none => .fault o.kind

def apply (o : Operator) (f g : Finding) : Finding :=
  if f.isFaulty || g.isFaulty then .fault o.kind
  else
    match f.value.convert? o.operandKind, g.value.convert? o.operandKind with
    | some v, some w => o.applyConverted v w
    | _, _ => .fault o.kind

end Operator

namespace Expr

def negated (f : Finding) : Finding :=
  f.after (match f.value.convert? .number with
    | some (.number x) => .sound (.number x.negate)
    | some (.unknown _) => .sound (.unknown .number)
    | _ => .fault .number)

def inverted (f : Finding) : Finding :=
  f.after (match f.value.convert? .boolean with
    | some (.boolean b) => .sound (.boolean !b)
    | some (.unknown _) => .sound (.unknown .boolean)
    | _ => .fault .boolean)

/-- The kind of a choice. No value at all takes the kind of the other. -/
def choiceKind? : Value → Value → Option Kind
  | .null .any, w => some w.kind
  | v, .null .any => some v.kind
  | v, w => Kind.unify? [v.kind, w.kind]

/-- The chosen value, as one of the kind that both fit into. Next to something of an unknown kind it is
unknown if it has parts. -/
def chosen (k : Kind) (f other : Finding) : Finding :=
  let isOpen (a b : Value) := a.kind.isAny && !a.isNull && b.kind.isCompound
  if isOpen f.value other.value || isOpen other.value f.value then f.after (.sound (.unknown .any))
  else
    f.after (match f.value.convert? k with
      | some v => .sound v
      | none => .fault k)

/-- A choice between two findings. Only the faults of the chosen one count. -/
def choose (condition yes no : Finding) : Finding :=
  match choiceKind? yes.value no.value with
  | none => .fault .any
  | some k =>
    condition.after (
      if condition.value.isNull then .fault k
      else if !condition.value.isKnown then .sound (.unknown k)
      else
        match condition.value.convert? .boolean with
        | some (.boolean true) => chosen k yes no
        | some (.boolean false) => chosen k no yes
        | _ => .fault k)

def partText (f : Finding) : Finding :=
  f.after (match f.value with
    | .null _ => .fault .text
    | .unknown _ => .sound (.unknown .text)
    | v =>
      match v.convert? .text with
      | some v => .sound v
      | none => .fault .text)

def textOf (fs : List Finding) : Finding :=
  let parts := fs.map partText
  let isFaulty := parts.any (·.isFaulty)
  match parts.mapM (·.value.text?) with
  | some ss => { value := .ofString (String.join ss), isFaulty }
  | none => { value := .unknown .text, isFaulty }

/-- The text of the members of a finding that is a tuple, or not known. -/
def joinedText (f : Finding) : Finding :=
  f.after (match f.value with
    | .tuple vs => textOf (vs.map .sound)
    | _ => .sound (.unknown .text))

/-- Whether a member is taken, by the finding for its condition: none if that cannot be told. -/
def isTaken? (f : Finding) : Option Bool :=
  match f.value.convert? .boolean with
  | some (.boolean b) => some b
  | _ => none

/-- Whether it is a fault that a condition does not tell. -/
def isBadCondition (f : Finding) : Bool :=
  match f.value with
  | .null _ => true
  | v => (v.convert? .boolean).isNone

/-- Values collected so far: none as soon as one of them cannot be told; and whether there was a
fault. -/
structure Collected (α : Type) where
  items : Option α
  isFaulty : Bool

namespace Collected

/-- Gives up. That itself is a fault only if nothing was given up before. -/
def stop (c : Collected α) (isBad : Bool) : Collected α :=
  { items := none, isFaulty := c.isFaulty || (c.items.isSome && isBad) }

def noting (c : Collected α) (f : Finding) : Collected α :=
  { c with isFaulty := c.isFaulty || f.isFaulty }

/-- Goes on with a member if its condition says so. -/
def when (c : Collected α) (condition : Finding) (take : Collected α → Collected α) : Collected α :=
  let c := c.noting condition
  match isTaken? condition with
  | some true => take c
  | some false => c
  | none => c.stop (isBadCondition condition)

def addValue (c : Collected (List Value)) : Finding × Finding → Collected (List Value)
  | (condition, value) =>
    c.when condition fun c =>
      { items := c.items.map (value.value :: ·), isFaulty := c.isFaulty || value.isFaulty }

/-- Adds a field of an object that is written out. The last one of a name counts. -/
def addWritten (c : Collected (List (String × Value))) :
    Finding × Finding → Collected (List (String × Value))
  | (key, value) =>
    let c := (c.noting value).noting key
    if key.isFaulty then c.stop false
    else
      match key.value, key.value.convert? .text with
      | .null _, _ => { items := none, isFaulty := true }
      | .unknown _, _ => c.stop false
      | _, some (.text n) => { c with items := c.items.map (Value.insertField n value.value) }
      | _, _ => { items := none, isFaulty := true }

/-- Adds a value under its key. A key comes only once. -/
def addField (c : Collected (List (String × Value))) :
    Finding × Finding × Finding → Collected (List (String × Value))
  | (condition, key, value) =>
    c.when condition fun c =>
      let c := c.noting key
      match key.value, key.value.convert? .text with
      | .null _, _ => c.stop true
      | .unknown _, _ => c.stop false
      | _, some (.text n) =>
        let c := c.noting value
        match c.items with
        | some fs =>
          if (fs.lookup n).isSome then { c with isFaulty := true }
          else { c with items := some (Value.insertField n value.value fs) }
        | none => c
      | _, _ => c.stop true

def addToGroup (c : Collected (List (String × List Value))) :
    Finding × Finding × Finding → Collected (List (String × List Value))
  | (condition, key, value) =>
    c.when condition fun c =>
      let c := c.noting key
      match key.value, key.value.convert? .text with
      | .null _, _ => c.stop true
      | .unknown _, _ => c.stop false
      | _, some (.text n) =>
        let c := c.noting value
        { c with
          items := c.items.map fun gs =>
            Value.insertField n ((gs.lookup n).getD [] ++ [value.value]) gs }
      | _, _ => c.stop true

def toFinding (c : Collected α) (make : α → Value) : Finding :=
  { value := (c.items.map make).getD (.unknown .any), isFaulty := c.isFaulty }

end Collected

/-- Goes through the entries of a source, if it has any and the condition makes sense at all. -/
def through (source trial : Finding) (collect : List (Value × Value) → Finding) : Finding :=
  source.after (match source.value with
    | .null _ => .fault .any
    | .unknown k => if k.isAny || k.isCompound then .sound (.unknown .any) else .fault .any
    | v =>
      match v.entries? with
      | none => .fault .any
      | some entries =>
        if trial.isFaulty || isBadCondition trial then .fault .any else collect entries)

/-- A selection from every member of a tuple or list. Any other value counts as a tuple of one, and no
value as an empty one. -/
def select (f : Finding) (each : Value → Finding) : Finding :=
  if f.isFaulty then .fault .any
  else
    match f.value with
    | .null (.tuple _) | .null (.list _) => .fault .any
    | .null _ => .sound (.tuple [])
    | .unknown _ => .sound (.unknown .any)
    | v =>
      let vs :=
        match v with
        | .tuple vs | .list _ vs => vs
        | v => [v]
      let fs := vs.map each
      if fs.any (·.isFaulty) then .fault .any
      else
        match v with
        | .list k _ =>
          .sound (.list ((fs.head?.map (·.value.kind)).getD k) (fs.map (·.value)))
        | _ => .sound (.tuple (fs.map (·.value)))

mutual

def eval : Expr → Scope → Finding
  | literal v, _ => .sound v
  | name n, s =>
    match s.names.lookup n with
    | some v => .sound v
    | none => .fault .any
  | member, s => .sound (s.member.getD (.unknown .any))
  | invalid, _ => .fault .any
  | grouped e, s => eval e s
  | negate e, s => negated (eval e s)
  | invert e, s => inverted (eval e s)
  | binary o l r, s => o.apply (eval l s) (eval r s)
  | choice c yes no, s => choose (eval c s) (eval yes s) (eval no s)
  | tuple es, s =>
    let fs := evalAll es s
    { value := .tuple (fs.map (·.value)), isFaulty := fs.any (·.isFaulty) }
  | object fs, s =>
    ((evalFields fs s).foldl Collected.addWritten { items := some [], isFaulty := false }).toFinding
      .object
  | index e key, s =>
    let f := eval e s
    let g := eval key s
    (f.after g).after (f.value.index g.value)
  | field e n, s =>
    let f := eval e s
    f.after (f.value.field n)
  | every e each, s => select (eval e s) fun v => eval each { s with member := some v }
  | collect key n source value condition, s =>
    let trial := eval condition (s.bind key n (.unknown .any) (.unknown .any))
    through (eval source s) trial fun entries =>
      ((entries.map fun (k, v) =>
        let s := s.bind key n k v
        (eval condition s, eval value s)).foldl Collected.addValue
          { items := some [], isFaulty := false }).toFinding fun vs => .tuple vs.reverse
  | collectFields key n source fieldKey value isGrouped condition, s =>
    let trial := eval condition (s.bind key n (.unknown .any) (.unknown .any))
    through (eval source s) trial fun entries =>
      let rows := entries.map fun (k, v) =>
        let s := s.bind key n k v
        (eval condition s, eval fieldKey s, eval value s)
      if isGrouped then
        (rows.foldl Collected.addToGroup { items := some [], isFaulty := false }).toFinding
          fun gs => .object (gs.map fun (n, vs) => (n, .tuple vs))
      else
        (rows.foldl Collected.addField { items := some [], isFaulty := false }).toFinding .object
  | template es, s => textOf (evalAll es s)
  | joined e, s => joinedText (eval e s)
termination_by structural e => e

def evalAll : List Expr → Scope → List Finding
  | [], _ => []
  | e :: es, s => eval e s :: evalAll es s
termination_by structural es => es

def evalFields : List (Expr × Expr) → Scope → List (Finding × Finding)
  | [], _ => []
  | (key, value) :: fs, s => (eval key s, eval value s) :: evalFields fs s
termination_by structural fs => fs

end

/-- The value of an expression in which no names stand for anything, if there is no fault. -/
def value? (e : Expr) : Option Value :=
  let f := e.eval {}
  if f.isFaulty then none else some f.value

end Expr
end TapeWasm.Settings
