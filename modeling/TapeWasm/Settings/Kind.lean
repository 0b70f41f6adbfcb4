/-!
Kinds of settings values: which kinds convert to which, and a kind that several values fit into.
-/
namespace TapeWasm.Settings

inductive Kind where
  /-- Any kind, where it is not known yet. -/
  | any
  | text
  | number
  | boolean
  | tuple (members : List Kind)
  | list (member : Kind)
  /-- Fields come in the order of their names. -/
  | object (fields : List (String × Kind))
  | map (member : Kind)

namespace Kind

mutual

def same : Kind → Kind → Bool
  | any, any | text, text | number, number | boolean, boolean => true
  | tuple ks, tuple ls => sameAll ks ls
  | list k, list l => same k l
  | object fs, object gs => sameFields fs gs
  | map k, map l => same k l
  | _, _ => false
termination_by structural x => x

def sameAll : List Kind → List Kind → Bool
  | [], [] => true
  | k :: ks, l :: ls => same k l && sameAll ks ls
  | _, _ => false
termination_by structural x => x

def sameFields : List (String × Kind) → List (String × Kind) → Bool
  | [], [] => true
  | (n, k) :: fs, (m, l) :: gs => n == m && same k l && sameFields fs gs
  | _, _ => false
termination_by structural x => x

end

mutual

/-- Whether values of the first kind may convert to the second. Texts convert to numbers and truth
values if they are written like one. -/
def converts : Kind → Kind → Bool
  | _, any | any, _ => true
  | text, text | text, number | text, boolean => true
  | number, number | number, text => true
  | boolean, boolean | boolean, text => true
  | tuple ks, tuple ls => convertAll ks ls
  | tuple ks, list l => convertEach ks l
  | list k, list l => converts k l
  | object fs, object gs => gs.all fun (n, l) => convertField fs n l
  | object fs, map l => convertFields fs l
  | map k, map l => converts k l
  | map k, object gs => gs.all fun (_, l) => converts k l
  | _, _ => false
termination_by structural k => k

def convertAll : List Kind → List Kind → Bool
  | [], [] => true
  | k :: ks, l :: ls => converts k l && convertAll ks ls
  | _, _ => false
termination_by structural ks => ks

def convertEach : List Kind → Kind → Bool
  | [], _ => true
  | k :: ks, l => converts k l && convertEach ks l
termination_by structural ks => ks

def convertField : List (String × Kind) → String → Kind → Bool
  | [], _, _ => false
  | (m, k) :: fs, n, l => if m == n then converts k l else convertField fs n l
termination_by structural fs => fs

def convertFields : List (String × Kind) → Kind → Bool
  | [], _ => true
  | (_, k) :: fs, l => converts k l && convertFields fs l
termination_by structural fs => fs

end

@[simp] theorem converts_any (k : Kind) : k.converts any = true := by
  cases k <;> rfl

mutual

def depth : Kind → Nat
  | tuple ks => depthAll ks + 1
  | list k | map k => depth k + 1
  | object fs => depthFields fs + 1
  | _ => 0
termination_by structural x => x

def depthAll : List Kind → Nat
  | [] => 0
  | k :: ks => max (depth k) (depthAll ks)
termination_by structural x => x

def depthFields : List (String × Kind) → Nat
  | [] => 0
  | (_, k) :: fs => max (depth k) (depthFields fs)
termination_by structural x => x

end

def isAny : Kind → Bool
  | any => true
  | _ => false

def isText : Kind → Bool
  | text => true
  | _ => false

def isCompound : Kind → Bool
  | tuple _ | list _ | object _ | map _ => true
  | _ => false

def members? : Kind → Option (List Kind)
  | tuple ks => some ks
  | _ => none

def fields? : Kind → Option (List (String × Kind))
  | object fs => some fs
  | _ => none

def listed? : Kind → Option (List Kind)
  | tuple ks => some ks
  | list k => some [k]
  | _ => none

def mapped? : Kind → Option (List Kind)
  | object fs => some (fs.map (·.2))
  | map k => some [k]
  | _ => none

/-- The first of the kinds that all of them convert to. Texts come first, and any kind last. -/
def preferred? (ks : List Kind) : Option Kind :=
  let order := ks.filter isText ++ ks.filter (fun k => !k.isText && !k.isAny) ++ ks.filter isAny
  order.find? fun want => ks.all (·.converts want)

/-- The lists turned over: the first members of all, the second members of all, and so on. The
number tells how many members there are. -/
def columns (n : Nat) (rows : List (List α)) : List (List α) :=
  (List.range n).map fun i => rows.filterMap (·[i]?)

/-- A kind that values of all these kinds fit into; the first argument bounds the nesting. Tuples of
one length and objects of the same fields keep their form, others become lists and maps. -/
def unifyIn : Nat → List Kind → Option Kind
  | 0, ks => preferred? ks
  | fuel + 1, ks =>
    match ks.mapM members? with
    | some ((row :: rows) : List (List Kind)) =>
      if rows.all (·.length == row.length) then
        ((columns row.length (row :: rows)).mapM (unifyIn fuel)).map tuple
      else (unifyIn fuel (row :: rows).flatten).map list
    | _ =>
      match ks.mapM fields? with
      | some ((row :: rows) : List (List (String × Kind))) =>
        let names := row.map (·.1)
        if rows.all (·.map (·.1) == names) then
          ((columns row.length ((row :: rows).map (·.map (·.2)))).mapM (unifyIn fuel)).map fun ls =>
            object (names.zip ls)
        else (unifyIn fuel ((row :: rows).flatten.map (·.2))).map map
      | _ =>
        match ks.mapM listed?, ks.mapM mapped? with
        | some (rows@(_ :: _)), _ => (unifyIn fuel rows.flatten).map list
        | _, some (rows@(_ :: _)) => (unifyIn fuel rows.flatten).map map
        | _, _ => if ks.any isAny && ks.any isCompound then some any else preferred? ks

def unify? (ks : List Kind) : Option Kind :=
  unifyIn (depthAll ks + 1) ks

end Kind
end TapeWasm.Settings
