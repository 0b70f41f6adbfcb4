import TapeWasm.Engine.Strategy
import TapeWasm.Optimizer.Tool

/-!
A tree of files, as a command sees it from its working directory.
-/
namespace TapeWasm

/-- What stands at a place in the tree. An executable does something with arguments and a module. -/
inductive Node where
  | directory
  | file (content : Bytes)
  | executable (content : Bytes) (behaviour : List String → Bytes → ToolRun)

/-- Nodes by their places from the root, the working directory, the directories that are searched
for executables, and the host. -/
structure World where
  nodes : List (List String × Node) := []
  here : List String := ["work"]
  search : List (List String) := []
  host : Host := {}

/-- What a path leads to: a node, or a place in a directory where none is. -/
inductive Found where
  | node (place : List String) (n : Node)
  | vacant (place : List String)

namespace World

def noEntry : String := "no such file or directory"
def notDirectory : String := "not a directory"
def isDirectory : String := "is a directory"

def nodeAt? (w : World) (place : List String) : Option Node :=
  if place = [] ∨ place = w.here then some .directory
  else (w.nodes.find? fun n => n.1 = place).map (·.2)

/-- Where a name leads from a place. -/
def step (place : List String) (name : String) : List String :=
  if name = "" ∨ name = "." then place
  else if name = ".." then place.dropLast
  else place ++ [name]

def startOf (w : World) (p : Path) : List String :=
  if p.isRooted then [] else w.here

/-- The place that a path stands for, whatever is there. -/
def placeOf (w : World) (p : Path) : List String :=
  p.names.foldl step (w.startOf p)

def walk (w : World) : List String → List String → Except String Found
  | place, [] =>
    match w.nodeAt? place with
    | some n => .ok (.node place n)
    | none => .ok (.vacant place)
  | place, name :: rest =>
    match w.nodeAt? place with
    | none => .error noEntry
    | some .directory => walk w (step place name) rest
    | some _ => .error notDirectory

def find (w : World) (p : Path) : Except String Found :=
  if p.isEmpty then .error noEntry else w.walk (w.startOf p) p.names

def contentOf : Node → Option Bytes
  | .directory => none
  | .file b => some b
  | .executable b _ => some b

def read (w : World) (p : Path) : Except String Bytes :=
  match w.find p with
  | .error why => .error ("open " ++ p.text ++ ": " ++ why)
  | .ok (.vacant _) => .error ("open " ++ p.text ++ ": " ++ noEntry)
  | .ok (.node _ n) =>
    match contentOf n with
    | some b => .ok b
    | none => .error ("read " ++ p.text ++ ": " ++ isDirectory)

/-- Opens a file for input. A directory can be opened, but nothing comes out of it. -/
def openInput (w : World) (p : Path) : Except String Bytes :=
  match w.find p with
  | .error why => .error ("open " ++ p.text ++ ": " ++ why)
  | .ok (.vacant _) => .error ("open " ++ p.text ++ ": " ++ noEntry)
  | .ok (.node _ n) => .ok ((contentOf n).getD [])

def holds (w : World) (p : Path) : Bool :=
  match w.find p with
  | .ok (.node _ _) => true
  | _ => false

def put (w : World) (place : List String) (n : Node) : World :=
  { w with nodes := (place, n) :: w.nodes.filter fun m => m.1 ≠ place }

/-- Whether a path asks for a directory, by a slash at its end, where nothing is yet. -/
def wantsDirectory (w : World) (p : Path) : Bool :=
  let names := (p.names.reverse.dropWhile (· = "")).reverse
  names ≠ p.names && match w.find { p with names } with
    | .ok (.vacant _) => true
    | _ => false

def write (w : World) (p : Path) (content : Bytes) : Except String World :=
  match w.find p with
  | .error why =>
    .error ("open " ++ p.text ++ ": " ++ (if w.wantsDirectory p then isDirectory else why))
  | .ok (.vacant place) => .ok (w.put place (.file content))
  | .ok (.node place n) =>
    match n with
    | .directory => .error ("open " ++ p.text ++ ": " ++ isDirectory)
    | .file _ => .ok (w.put place (.file content))
    | .executable _ behaviour => .ok (w.put place (.executable content behaviour))

/-! Directories. -/

/-- Makes the directories down to a place that are not there yet; `above` is one that is there, and
the path is the one that was asked for. -/
def makeDirsFrom (p : Path) (w : World) (above : List String) : List String → Except String World
  | [] => .ok w
  | name :: rest =>
    let place := above ++ [name]
    match w.nodeAt? place with
    | none => makeDirsFrom p (w.put place .directory) place rest
    | some .directory => makeDirsFrom p w place rest
    | some _ =>
      let upTo : Path := { p with names := p.names.take (p.names.length - rest.length) }
      .error ("mkdir " ++ upTo.text ++ ": " ++ notDirectory)

def makeDirs (w : World) (p : Path) : Except String World :=
  makeDirsFrom p w [] (w.placeOf p)

/-- Whether there is nothing at a place or below it. -/
def isFree (w : World) (place : List String) : Bool :=
  !place.isPrefixOf w.here && w.nodes.all fun n => !place.isPrefixOf n.1

def makeTempDir (w : World) (stem : String) : Except String (Path × World) :=
  let dir (n : Nat) : Path := ⟨true, ["tmp", stem ++ toString n]⟩
  match w.nodeAt? ["tmp"] with
  | none => .error ("stat /tmp: " ++ noEntry)
  | some .directory =>
    match (List.range 10000).find? fun n => w.isFree (dir n).names with
    | some n => .ok (dir n, w.put (dir n).names .directory)
    | none => .error ("mkdirtemp /tmp/" ++ stem ++ "*: file already exists")
  | some _ => .error ("mkdir " ++ (dir 0).text ++ ": " ++ notDirectory)

def removeAll (w : World) (p : Path) : World :=
  { w with nodes := w.nodes.filter fun n => !(w.placeOf p).isPrefixOf n.1 }

def filesBelow (w : World) (p : Path) : List (String × Bytes) :=
  let dir := w.placeOf p
  ((w.nodes.map (·.1)).eraseDups.filter dir.isPrefixOf).filterMap fun place =>
    ((w.nodeAt? place).bind contentOf).map fun b =>
      ("/".intercalate (place.drop dir.length), b)

/-! Tools. -/

/-- What is wrong with a path as an executable. -/
def executableFault? (w : World) (p : Path) : Option String :=
  match w.find p with
  | .error why => some ("stat " ++ p.text ++ ": " ++ why)
  | .ok (.vacant _) => some ("stat " ++ p.text ++ ": " ++ noEntry)
  | .ok (.node _ .directory) => some isDirectory
  | .ok (.node _ (.file _)) => some "permission denied"
  | .ok (.node _ (.executable _ _)) => none

/-- The executable that a name stands for: a name with a slash is a path, any other is searched. -/
def locate (w : World) (name : String) : Except String String :=
  let complaint (why : String) := "exec: " ++ Text.quote name ++ ": " ++ why
  if name.toList.contains '/' then
    match w.executableFault? (.ofString name) with
    | some why => .error (complaint why)
    | none => .ok name
  else
    let paths := w.search.map fun dir => (⟨true, dir ++ [name]⟩ : Path)
    match paths.find? fun p => (w.executableFault? p).isNone with
    | some p => .ok p.text
    | none => .error (complaint "executable file not found in $PATH")

/-- A name for a fresh file in a directory. -/
def scratch (w : World) (dir before after : String) : Except String String :=
  let dir := if dir = "" then "/tmp" else dir
  let path := (if dir.endsWith "/" then dir else dir ++ "/") ++ before ++ "1" ++ after
  match w.find (.ofString (dir ++ "/.")) with
  | .ok (.node _ _) => .ok path
  | .ok (.vacant _) => .error ("open " ++ path ++ ": " ++ noEntry)
  | .error why => .error ("open " ++ path ++ ": " ++ why)

def toolbox (w : World) : Toolbox where
  locate := w.locate
  scratch := w.scratch
  run path arguments module :=
    match w.find (.ofString path) with
    | .ok (.node _ (.executable _ behaviour)) => behaviour arguments module
    | _ => { failure := some noEntry, complaint := "", answer := none }

end World
end TapeWasm
