import TapeWasm.Engine.Digest
import TapeWasm.World

/-!
Directories for native code. One that settings name stays and has a part for each module; without
such a name each object gets a directory of its own, which goes with it.
-/
namespace TapeWasm

/-- Work on files that can fail. What was done to the files before stays done. -/
abbrev FileWork (α : Type) := ExceptT Fault (StateM World) α

namespace FileWork

/-- One operation on files; its complaint becomes a fault. -/
def attempt (operation : World → Except String World) (fault : String → Fault) : FileWork Unit :=
  fun w =>
    match operation w with
    | .ok w' => (.ok (), w')
    | .error why => (.error (fault why), w)

/-- Undoes something should the work fail. -/
def orElseUndo (work : FileWork α) (undo : World → World) : FileWork α :=
  fun w =>
    match work w with
    | (.ok a, w') => (.ok a, w')
    | (.error f, w') => (.error f, undo w')

end FileWork

/-- A directory for native code, and whether it goes with the object it was made for. -/
structure Cache where
  dir : Path
  isPrivate : Bool
  deriving DecidableEq, Repr

namespace Cache

def dirFor (root : String) (digest : Bytes) : Path :=
  (Path.ofString root).join ⟨false, [digest.toHex]⟩

/-- Makes the directory for a module; no root asks for a private one. -/
def make (root : String) (digest : Bytes) : FileWork Cache :=
  if root = "" then
    fun w =>
      match w.makeTempDir "brainwasm-cache-" with
      | .ok (dir, w') => (.ok ⟨dir, true⟩, w')
      | .error why => (.error (.io Phase.compile "" (some (.plain why))), w)
  else do
    let dir := dirFor root digest
    FileWork.attempt (·.makeDirs dir) fun why => .io Phase.compile dir.text (some (.plain why))
    return ⟨dir, false⟩

/-- Puts a file back, unless there is something in its place. -/
def restoreFile (c : Cache) (name : String) (data : Bytes) : FileWork Unit :=
  let entry := Path.ofString name
  let path := c.dir.join entry
  let lost (why : String) : Fault := .io Phase.load path.text (some (.plain why))
  if entry.isLocal = false then
    throw (.invalidData Phase.load
      ("cache entry " ++ Text.quote name ++ " escapes the cache directory"))
  else do
    if (← get).holds path then return ()
    else
      FileWork.attempt (·.makeDirs path.parent) lost
      FileWork.attempt (·.write path data) lost

def restore (c : Cache) : List (String × Bytes) → FileWork Unit
  | [] => return ()
  | (name, data) :: rest => do
    c.restoreFile name data
    c.restore rest

def collect (c : Cache) (w : World) : Except Fault (List (String × Bytes)) :=
  if w.holds c.dir then .ok (w.filesBelow c.dir)
  else
    .error (.io Phase.serialize c.dir.text
      (some (.plain ("lstat " ++ c.dir.text ++ ": " ++ World.noEntry))))

def release (c : Cache) (w : World) : World :=
  if c.isPrivate then w.removeAll c.dir else w

end Cache
end TapeWasm
