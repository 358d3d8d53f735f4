import HybridTx.Files.Error
import HybridTx.Files.Path
import HybridTx.Tool.Signal

/-! Running another program to its end. -/

namespace HybridTx

/-- How a program ended. -/
inductive ExitStatus
  | code (number : UInt8)
  | signal (number : Signal)
deriving DecidableEq, Repr

/-- The wording of an end. -/
def ExitStatus.describe : ExitStatus → String
  | code number => s!"exit status: {number.toNat}"
  | signal number => match number.name? with
    | some name => s!"signal: {number} (SIG{name})"
    | none => s!"signal: {number}"

/-- How a program ended and what it wrote. -/
structure ToolOutput where
  status : ExitStatus
  stdout : Bytes
  stderr : Bytes
deriving DecidableEq, Repr

/-- What it takes to run programs: starting one, and files that last as long as a call. -/
structure ToolRunner (m : Type → Type) where
  /-- Runs a program with arguments, or tells why it cannot be started. -/
  run : (program : Path) → (args : List String) → m (Except FileError ToolOutput)
  /-- Makes a new file with a given content. -/
  stage : Bytes → m (Except FileError Path)
  /-- Removes a file that was made so. -/
  unstage : Path → m Unit

end HybridTx
