import HybridTx.Files.Disk

/-! What scripts ask of a file system beyond reading and writing. -/

namespace HybridTx

/-- The operations of a file system, with those that list, remove and move. -/
structure FileSystem (m : Type → Type) extends Disk m where
  /-- The names in a directory, in no order. -/
  entries : Path → m (Except FileError (List String))
  /-- Removes a file. -/
  remove : Path → m (Except FileError Unit)
  /-- Removes a directory with nothing in it. -/
  removeDir : Path → m (Except FileError Unit)
  /-- Gives a file or directory another path, over a file that is there. -/
  rename : Path → Path → m (Except FileError Unit)

end HybridTx
