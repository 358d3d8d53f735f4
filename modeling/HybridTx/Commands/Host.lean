import HybridTx.Files.Disk
import HybridTx.Tool.Basic

/-! What commands need of the world. -/

namespace HybridTx

/-- Files, programs, random bytes, and the home directory if there is one. -/
structure Host (m : Type → Type) where
  disk : Disk m
  tools : ToolRunner m
  random : Nat → m Bytes
  home : Option Path

namespace Host

/-- The path with the home directory in place of a leading `~`. -/
def expand {m : Type → Type} (host : Host m) (path : Path) : Path :=
  Path.expandHome host.home path

end Host

end HybridTx
