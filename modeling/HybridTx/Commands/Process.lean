import HybridTx.Arguments.Reader
import HybridTx.Commands.Run

/-! The program as a process: what it writes, and the status that it leaves, for its arguments. -/

namespace HybridTx

/-- How the program ends: its status, what it prints, and what it says beside. -/
structure Ending where
  status : UInt8 := 0
  printed : String := ""
  remarks : String := ""
deriving DecidableEq, Repr

namespace Ending

/-- The end of a command. A fault that comes from a transaction error is told with its number
first. -/
def ofOutcome (outcome : Outcome) : Ending where
  status := outcome.exitCode
  printed := outcome.output
  remarks := match outcome.fault with
    | none => ""
    | some fault =>
      let number := match fault.code? with
        | some code => "ERROR tandem: Transaction error code=" ++ toString code ++ "\n"
        | none => ""
      number ++ fault.report ++ "\n"

/-- The end without a command. -/
def ofStop : Arguments.Stop → Ending
  | .help => { printed := Arguments.helpText ++ "\n" }
  | .version => { printed := Arguments.versionText ++ "\n" }
  | .usage => {
      status := 2
      remarks := "error: wrong arguments\n\nFor more information, try '--help'.\n" }

/-- What the one that started the program gets of it, when `log` is all that was said beside. -/
def toOutput (ending : Ending) (log : Bytes) : ToolOutput where
  status := .code ending.status
  stdout := Bytes.ofString ending.printed
  stderr := log

end Ending

/-- Reads the arguments of the program and runs it to its end. -/
def runProgram {m : Type → Type} [Monad m] (host : Host m) (args : List String) : m Ending :=
  match Arguments.read args with
  | .ok invocation => return .ofOutcome (← invocation.run host)
  | .error stop => pure (.ofStop stop)

end HybridTx
