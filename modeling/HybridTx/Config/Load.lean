import HybridTx.Config.Reader
import HybridTx.Files.Disk

/-! Loading the configuration file. -/

namespace HybridTx

/-- Why a configuration file that is there cannot be used. -/
inductive ConfigError
  | unreadable (path : Path) (reason : FileError)
  | malformed (path : Path)
deriving DecidableEq, Repr

/-- Reads the file at a path. Without a file, every setting has its default. -/
def Config.load {m : Type → Type} [Monad m] (disk : Disk m) (path : Path) :
    m (Except ConfigError Config) := do
  if ← disk.isPresent path then
    match ← disk.readText path with
    | .error e => pure (.error (.unreadable path e))
    | .ok text => pure (match Config.read? text with
      | some config => .ok config
      | none => .error (.malformed path))
  else pure (.ok {})

end HybridTx
