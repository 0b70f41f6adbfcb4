import TapeWasm.Peephole.Group

/-!
How a body is condensed. Groups are pushed on a stack; a move or change that follows one of the same
place is added to it, and those that come to nothing vanish. When an `end` completes a loop that
takes an odd number from a cell until it is zero, the loop becomes a store of zero.
-/
namespace TapeWasm.Peephole

open Wasm

/-- The sum of two neighbouring groups of the same place: the later one first. -/
def merged? : Group → Group → Option Group
  | .move v d, .move w e => if v = w then some (.move v (d + e)) else none
  | .change v a d, .change w b e => if v = w ∧ a = b then some (.change v a (d + e)) else none
  | _, _ => none

def isIdle : Group → Bool
  | .move _ d => d == 0
  | .change _ _ d => d == 0
  | _ => false

/-- Merges a group with those on top of the stack. A sum of zero takes both away and ends this. -/
def settle (g : Group) : List Group → Option Group × List Group
  | [] => (some g, [])
  | top :: below =>
    match merged? g top with
    | none => (some g, top :: below)
    | some sum => if isIdle sum then (none, below) else settle sum below

def isRaw (op : UInt8) : Group → Option Immediate
  | .raw i => if i.op = op then some i.imm else none
  | _ => none

/-- Whether two groups read the word at a variable's address. -/
def isCellRead (v : UInt32) (arg : MemArg) (get load : Group) : Bool :=
  isRaw Op.localGet get == some (.localVar v) && isRaw Op.i32Load load == some (.memory arg)

/-- Replaces a loop that ends on top of the stack and does nothing but change one cell by an odd
number until it is zero. -/
def collapseClearing (stack : List Group) : List Group :=
  match stack with
  | end1 :: end0 :: again :: ne :: zero :: load1 :: get1 :: .change v arg delta ::
      loop :: leave :: eqz :: load0 :: get0 :: block :: below =>
    if delta % 2 ≠ 0 ∧
        isRaw Op.block block = some (.block emptyType) ∧
        isCellRead v arg get0 load0 ∧
        (isRaw Op.i32Eqz eqz).isSome ∧
        isRaw Op.brIf leave = some (.branch 0) ∧
        isRaw Op.loop loop = some (.block emptyType) ∧
        isCellRead v arg get1 load1 ∧
        isRaw Op.i32Const zero = some (.i32 0) ∧
        (isRaw Op.i32Ne ne).isSome ∧
        isRaw Op.brIf again = some (.branch 0) ∧
        (isRaw Op.stop end0).isSome ∧
        (isRaw Op.stop end1).isSome then
      .clear v arg :: below
    else stack
  | _ => stack

/-- Puts a group on the stack, topmost first. -/
def push (stack : List Group) (g : Group) : List Group :=
  match settle g stack with
  | (none, below) => below
  | (some g, below) =>
    if isIdle g then below
    else if (isRaw Op.stop g).isSome then collapseClearing (g :: below)
    else g :: below

/-- Groups the instructions, passing over the `skip` instructions of a group already taken. -/
def groupFrom : Nat → List Instr → List Group → List Group
  | _, [], stack => stack
  | skip + 1, _ :: is, stack => groupFrom skip is stack
  | 0, i :: is, stack =>
    let (g, more) := groupAt i is
    groupFrom more is (push stack g)

def condense (code : List Instr) : List Instr :=
  (groupFrom 0 code []).reverse.flatMap Group.code

end TapeWasm.Peephole
