import HybridTx.Files.Error
import HybridTx.Files.Path

/-! What the program asks of a file system, and the two operations that are made of others: reading
text, and making a directory with its parents. -/

namespace HybridTx

/-- The operations of a file system. Each may fail on its own. -/
structure Disk (m : Type → Type) where
  /-- All bytes of a file. -/
  read : Path → m (Except FileError Bytes)
  /-- Makes the file or replaces what it holds. -/
  write : Path → Bytes → m (Except FileError Unit)
  /-- Leaves the file to its owner alone. -/
  restrict : Path → m (Except FileError Unit)
  /-- Makes one directory in a directory that is there. -/
  makeDir : Path → m (Except FileError Unit)
  /-- Whether a file or directory is there. -/
  isPresent : Path → m Bool
  /-- Whether a directory is there. -/
  isDir : Path → m Bool

namespace Disk

variable {m : Type → Type} [Monad m]

/-- All of a file, which must be UTF-8. -/
def readText (disk : Disk m) (path : Path) : m (Except FileError String) := do
  match ← disk.read path with
  | .error e => pure (.error e)
  | .ok bytes => pure ((Utf8.decode bytes).mapError fun _ => .notText)

/-- Makes a directory unless it is there. -/
def ensureDir (disk : Disk m) (path : Path) : m (Except FileError Unit) := do
  match ← disk.makeDir path with
  | .ok () => pure (.ok ())
  | .error e => if ← disk.isDir path then pure (.ok ()) else pure (.error e)

/-- Makes a directory unless it is there; when its parent is missing, that first. `depth` bounds the
names of the path. -/
def makeDirsTo (disk : Disk m) : (depth : Nat) → Path → m (Except FileError Unit)
  | 0, _ => pure (.error .noParent)
  | depth + 1, path => do
    if path = "" then pure (.ok ())
    else
      match ← disk.makeDir path with
      | .ok () => pure (.ok ())
      | .error .notFound =>
        match Path.parent? path with
        | none => pure (.error .noParent)
        | some parent =>
          match ← disk.makeDirsTo depth parent with
          | .error e => pure (.error e)
          | .ok () => disk.ensureDir path
      | .error e => if ← disk.isDir path then pure (.ok ()) else pure (.error e)

/-- Makes a directory and all its parents, unless they are there. -/
def makeDirs (disk : Disk m) (path : Path) : m (Except FileError Unit) :=
  disk.makeDirsTo (path.length + 1) path

end Disk

end HybridTx
