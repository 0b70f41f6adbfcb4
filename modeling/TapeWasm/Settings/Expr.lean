import TapeWasm.Settings.Operator
import TapeWasm.Settings.Value

/-!
Expressions, as the values of settings are written.
-/
namespace TapeWasm.Settings

inductive Expr where
  | literal (v : Value)
  | name (s : String)
  /-- The member that a selection from every member is at. -/
  | member
  /-- Something that has no value, such as a call: there are no functions. -/
  | invalid
  /-- A value in parentheses, or one that is all of a text. -/
  | grouped (e : Expr)
  | negate (e : Expr)
  | invert (e : Expr)
  | binary (o : Operator) (left right : Expr)
  | choice (condition yes no : Expr)
  | tuple (members : List Expr)
  | object (fields : List (Expr × Expr))
  | index (e key : Expr)
  | field (e : Expr) (name : String)
  /-- A selection from every member. -/
  | every (e each : Expr)
  /-- A tuple of the values for the members of another one that fulfil a condition. -/
  | collect (key : Option String) (name : String) (source value condition : Expr)
  /-- An object of such values under keys; grouped, there is a tuple for each key. -/
  | collectFields (key : Option String) (name : String) (source fieldKey value : Expr)
      (isGrouped : Bool) (condition : Expr)
  /-- A text of several parts. -/
  | template (parts : List Expr)
  /-- The text of the members of a tuple. -/
  | joined (e : Expr)

namespace Expr

def ofText (s : String) : Expr :=
  literal (.ofString s)

def isPlain : Expr → Bool
  | literal _ => true
  | template [literal _] => true
  | _ => false

def isPath : Expr → Bool
  | name _ => true
  | field e _ => e.isPath
  | index e key => key.isPlain && e.isPath
  | _ => false

/-- What an expression means as the key of a field: a single word is its name, also where it would
stand for a value, and a longer path cannot be told from a name with points. -/
def asKey : Expr → Expr
  | name s => ofText s
  | literal (.boolean true) => ofText "true"
  | literal (.boolean false) => ofText "false"
  | literal (.null _) => ofText "null"
  | e => if e.isPath then invalid else e

end Expr
end TapeWasm.Settings
