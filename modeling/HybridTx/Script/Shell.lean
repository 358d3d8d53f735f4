import HybridTx.Files.Device
import HybridTx.Files.FileSystem
import HybridTx.Script.Command
import HybridTx.Tool.Signal

/-! What a script knows and changes while it runs. -/

namespace HybridTx.Script

/-- What stands behind an open stream. -/
inductive Backing
  | device (device : Device)
  | memory (content : Octets)
  | file (path : Octets)

/-- A stream that was opened, and how far it was used. -/
structure OpenStream where
  backing : Backing
  position : Nat := 0
  readable : Bool := true
  writable : Bool := true
  append : Bool := false

/-- A variable. It may have been exported before it has a value. -/
structure Variable where
  value : Option Octets := none
  exported : Bool := false
  readOnly : Bool := false

/-- What a subshell has of its own. -/
structure Shell where
  /-- The name of the script. -/
  name : Octets
  /-- The command that complains. -/
  complainer : Option Octets := none
  /-- The line that complaints are about. -/
  line : Nat := 1
  parameters : List Octets := []
  bindings : List (String × Variable) := []
  functions : List (String × Command) := []
  directory : Octets
  /-- The letters of the options that are on. -/
  options : List Char := []
  status : Nat := 0
  /-- The status of the last output that was asked for in a word. -/
  outputStatus : Nat := 0
  /-- The number of each open stream, and its place in the list of all that were opened. -/
  streams : List (Nat × Nat) := [(0, 0), (1, 1), (2, 2)]
  /-- What to do at the end, which has the number zero, and at signals. -/
  traps : List (Nat × Octets) := []
  /-- The status to end with if no other is named, while a trap is run. -/
  resting : Option Nat := none
  /-- How many loops are around. -/
  loops : Nat := 0
  /-- The option that was read last, and the letters of it that were read. -/
  scanned : Nat × Nat := (1, 0)
  /-- The variables that functions have hidden, innermost function first. -/
  hidden : List (List (String × Option Variable)) := []
  process : Nat
  background : Option Nat := none
  /-- Whether this is a part of another script that runs by itself. -/
  isPart : Bool := false

/-- Everything that changes while scripts run. -/
structure Machine where
  shell : Shell
  opened : Array OpenStream
  nextProcess : Nat := 4243
  /-- Processes in the background, and the status that each left. -/
  ended : List (Nat × Nat) := []
  /-- Signals that wait for the script to act on them. -/
  pending : List Signal := []

/-- Why the rest of a script is not run: a loop is left or goes on, a function returns, a command
cannot go on, the script ends, or a process is ended by a signal. -/
inductive Leave
  | breaks (loops : Nat)
  | continues (loops : Nat)
  | returns
  | faults
  | ends
  | killed (process : Nat) (signal : Signal)

/-- Running a part of a script. -/
abbrev Play (m : Type → Type) := ReaderT (FileSystem m) (ExceptT Leave (StateT Machine m))

variable {m : Type → Type} [Monad m]

/-- The shell as it is. -/
def shell : Play m Shell := do return (← getThe Machine).shell

/-- Changes the shell. -/
def modifyShell (change : Shell → Shell) : Play m Unit :=
  modifyThe Machine fun machine => { machine with shell := change machine.shell }

/-- Leaves a status. -/
def leave (status : Nat) : Play m Unit := modifyShell ({ · with status })

/-- The status that was left last. -/
def status : Play m Nat := do return (← shell).status

/-- An option is on. -/
def hasOption (letter : Char) : Play m Bool := do return letter ∈ (← shell).options

/-- Asks the file system. -/
def onFiles {α : Type} (action : FileSystem m → m α) : Play m α := do
  let files ← read
  liftM (action files)

namespace Shell

/-- The path from the root of what is named in a directory. -/
def resolve (directory path : Octets) : Octets :=
  if path.startsWith "/" || path = "" then path
  else Path.join directory path

/-- The value of a variable. -/
def value? (shell : Shell) (name : String) : Option Octets :=
  (shell.bindings.lookup name).bind Variable.value

/-- Puts a variable in place of one of the same name. -/
def put (shell : Shell) (name : String) (held : Variable) : Shell :=
  if shell.bindings.any (·.1 = name) then
    { shell with bindings := shell.bindings.map fun (n, v) =>
        if n = name then (n, held) else (n, v) }
  else { shell with bindings := shell.bindings ++ [(name, held)] }

/-- Takes a variable away. -/
def drop (shell : Shell) (name : String) : Shell :=
  { shell with bindings := shell.bindings.filter (·.1 ≠ name) }

/-- The variables that programs are given. -/
def surroundings (shell : Shell) : List (String × Octets) :=
  shell.bindings.filterMap fun (name, held) =>
    if held.exported then held.value.map fun value => (name, value) else none

end Shell

end HybridTx.Script
