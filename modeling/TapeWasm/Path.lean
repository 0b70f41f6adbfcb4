/-!
Slash-separated paths, as they are written. No file is looked at here.
-/
namespace TapeWasm

/-- Whether a path starts at the root, and the names between its slashes, which may be empty. -/
structure Path where
  isRooted : Bool
  names : List String
  deriving DecidableEq, Repr

namespace Path

/-- Splits at slashes; the name that has been begun is given in reverse. -/
def split : List Char → List Char → List String
  | [], name => [String.ofList name.reverse]
  | c :: r, name =>
    if c = '/' then String.ofList name.reverse :: split r [] else split r (c :: name)

def ofString (s : String) : Path :=
  match s.toList with
  | '/' :: r => ⟨true, split r []⟩
  | cs => ⟨false, split cs []⟩

def text (p : Path) : String :=
  (if p.isRooted then "/" else "") ++ "/".intercalate p.names

def isEmpty (p : Path) : Bool :=
  p = ⟨false, [""]⟩

/-- Adds a name to the names of a path, which are given in reverse: a dot adds nothing, and two dots
take the last name away, unless there is none or that is two dots too. -/
def push (isRooted : Bool) (above : List String) (name : String) : List String :=
  if name = "" ∨ name = "." then above
  else if name = ".." then
    match above with
    | [] => if isRooted then [] else [".."]
    | last :: rest => if last = ".." then ".." :: last :: rest else rest
  else name :: above

/-- The names that are left once the path has been followed on paper, in reverse. -/
def stack (p : Path) : List String :=
  p.names.foldl (push p.isRooted) []

/-- The shortest path that leads to the same place. -/
def clean (p : Path) : Path :=
  if p.stack = [] then ⟨p.isRooted, if p.isRooted then [] else ["."]⟩
  else ⟨p.isRooted, p.stack.reverse⟩

def join (p q : Path) : Path :=
  clean ⟨p.isRooted, p.names ++ q.names⟩

def parent (p : Path) : Path :=
  clean ⟨p.isRooted, p.names.dropLast⟩

/-- Whether a path leads to something inside the directory it is relative to. -/
def isLocal (p : Path) : Bool :=
  !p.isRooted && !p.isEmpty && p.clean.names.head? ≠ some ".."

/-- The length of the extension: the end of the last name from its last dot on. The path is given
in reverse. -/
def extensionLength? : List Char → Nat → Option Nat
  | [], _ => none
  | '/' :: _, _ => none
  | '.' :: _, n => some (n + 1)
  | _ :: r, n => extensionLength? r (n + 1)

def withExtension (path ext : String) : String :=
  let cs := path.toList.reverse
  String.ofList (cs.drop ((extensionLength? cs 0).getD 0)).reverse ++ ext

end Path
end TapeWasm
