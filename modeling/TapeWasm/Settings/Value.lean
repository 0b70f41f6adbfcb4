import TapeWasm.Settings.Kind
import TapeWasm.Settings.Number.Numeral
import TapeWasm.Settings.Number.Shortest
import TapeWasm.Text.NormalForm

/-!
Values of settings, and their conversions.
-/
namespace TapeWasm.Settings

/-- A value. What cannot be worked out is unknown, but may still have a kind; so has no value. -/
inductive Value where
  | unknown (kind : Kind)
  | null (kind : Kind)
  | text (s : String)
  | number (x : Number)
  | boolean (b : Bool)
  | tuple (members : List Value)
  | list (kind : Kind) (members : List Value)
  /-- Fields come in the order of their names. -/
  | object (fields : List (String × Value))
  | map (kind : Kind) (fields : List (String × Value))

namespace Value

/-- A text value. Texts are kept in normal form. -/
def ofString (s : String) : Value :=
  text (Text.normalForm s)

def ofChars (cs : List Char) : Value :=
  ofString (String.ofList cs)

mutual

def kind : Value → Kind
  | unknown k => k
  | null k => k
  | text _ => .text
  | number _ => .number
  | boolean _ => .boolean
  | tuple vs => .tuple (kinds vs)
  | list k _ => .list k
  | object fs => .object (fieldKinds fs)
  | map k _ => .map k
termination_by structural x => x

def kinds : List Value → List Kind
  | [] => []
  | v :: vs => kind v :: kinds vs
termination_by structural x => x

def fieldKinds : List (String × Value) → List (String × Kind)
  | [] => []
  | (n, v) :: fs => (n, kind v) :: fieldKinds fs
termination_by structural x => x

end

def isNull : Value → Bool
  | null _ => true
  | _ => false

def isKnown : Value → Bool
  | unknown _ => false
  | _ => true

def text? : Value → Option String
  | text s => some s
  | _ => none

def ofTruth? : String → Option Value
  | "true" | "1" => some (boolean true)
  | "false" | "0" => some (boolean false)
  | _ => none

mutual

def convert? : Value → Kind → Option Value
  | v, .any => some v
  | unknown k, l => if k.converts l then some (unknown l) else none
  | null k, l => if k.converts l then some (null l) else none
  | text s, .text => some (text s)
  | text s, .number => (Number.parse? s.toList).map number
  | text s, .boolean => ofTruth? s
  | number x, .number => some (number x)
  | number x, .text => some (text x.text)
  | boolean b, .boolean => some (boolean b)
  | boolean b, .text => some (text (if b then "true" else "false"))
  | tuple vs, .tuple ls => (convertAll? vs ls).map tuple
  | tuple vs, .list l => (convertEach? vs l).map (list l)
  | list _ vs, .list l => (convertEach? vs l).map (list l)
  | object fs, .object gs =>
    (gs.mapM fun (n, l) => (convertField? fs n l).map fun v => (n, v)).map object
  | object fs, .map l => (convertFields? fs l).map (map l)
  | map _ fs, .map l => (convertFields? fs l).map (map l)
  | map _ fs, .object gs =>
    (gs.mapM fun (n, l) => (convertField? fs n l).map fun v => (n, v)).map object
  | _, _ => none
termination_by structural x => x

def convertAll? : List Value → List Kind → Option (List Value)
  | [], [] => some []
  | v :: vs, l :: ls =>
    match convert? v l, convertAll? vs ls with
    | some w, some ws => some (w :: ws)
    | _, _ => none
  | _, _ => none
termination_by structural x => x

def convertEach? : List Value → Kind → Option (List Value)
  | [], _ => some []
  | v :: vs, l =>
    match convert? v l, convertEach? vs l with
    | some w, some ws => some (w :: ws)
    | _, _ => none
termination_by structural x => x

def convertField? : List (String × Value) → String → Kind → Option Value
  | [], _, _ => none
  | (m, v) :: fs, n, l => if m == n then convert? v l else convertField? fs n l
termination_by structural x => x

def convertFields? : List (String × Value) → Kind → Option (List (String × Value))
  | [], _ => some []
  | (n, v) :: fs, l =>
    match convert? v l, convertFields? fs l with
    | some w, some ws => some ((n, w) :: ws)
    | _, _ => none
termination_by structural x => x

end

mutual

/-- Whether two values are equal, where that can be told. Values of different kinds are not. -/
def equal? : Value → Value → Option Bool
  | unknown _, unknown _ => none
  | unknown k, w =>
    if w.isNull || k.isAny || k.same w.kind then none else some false
  | v, unknown k =>
    if v.isNull || k.isAny || k.same v.kind then none else some false
  | null _, w => some w.isNull
  | _, null _ => some false
  | text s, text t => some (s == t)
  | number x, number y => some (x.compare y == .eq)
  | boolean a, boolean b => some (a == b)
  | tuple vs, tuple ws => if Kind.sameAll (kinds vs) (kinds ws) then equalAll? vs ws else some false
  | list k vs, list l ws =>
    if k.same l && vs.length == ws.length then equalAll? vs ws else some false
  | object fs, object gs =>
    if Kind.sameFields (fieldKinds fs) (fieldKinds gs) then equalFields? fs gs else some false
  | map k fs, map l gs =>
    if k.same l && fs.map (·.1) == gs.map (·.1) then equalFields? fs gs else some false
  | _, _ => some false
termination_by structural x => x

def equalAll? : List Value → List Value → Option Bool
  | v :: vs, w :: ws =>
    match equal? v w with
    | some true => equalAll? vs ws
    | r => r
  | _, _ => some true
termination_by structural x => x

def equalFields? : List (String × Value) → List (String × Value) → Option Bool
  | (_, v) :: fs, (_, w) :: gs =>
    match equal? v w with
    | some true => equalFields? fs gs
    | r => r
  | _, _ => some true
termination_by structural x => x

end

/-- Puts a field to its place in the order of names. A field of the same name is replaced. -/
def insertField (n : String) (v : α) : List (String × α) → List (String × α)
  | [] => [(n, v)]
  | (m, w) :: fs =>
    if n < m then (n, v) :: (m, w) :: fs
    else if n = m then (n, v) :: fs
    else (m, w) :: insertField n v fs

@[simp] theorem lookup_insertField (n : String) (v : α) (fs : List (String × α)) :
    (insertField n v fs).lookup n = some v := by
  induction fs with
  | nil => simp [insertField]
  | cons f fs ih =>
    obtain ⟨m, w⟩ := f
    simp only [insertField]
    split
    · simp
    · split
      · simp
      · rename_i h
        have hb : (n == m) = false := by simpa using h
        simp only [List.lookup_cons, hb, ih]

/-- The members of a value with their numbers or names, as far as it has any and they are known. -/
def entries? : Value → Option (List (Value × Value))
  | tuple vs | list _ vs => some (vs.zipIdx.map fun (v, i) => (number (.ofIndex i), v))
  | object fs | map _ fs => some (fs.map fun (n, v) => (text n, v))
  | _ => none

end Value
end TapeWasm.Settings
