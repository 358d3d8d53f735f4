import HybridTx.Script.Run
import HybridTx.Tool.Basic

/-! Starting a program by its name, with nothing to read, and collecting what it writes. This is the
one `ToolRunner` that programs are really run with. Results about tools hold of every `ToolRunner`
and none rests on how a script is read or run. -/

namespace HybridTx.Script

/-- What a program is started with besides its arguments: the directory in which it works, and
variables. -/
structure Surroundings where
  directory : Path
  bindings : List (String × String) := []

variable {m : Type → Type} [Monad m]

/-- How deep functions, words and scripts may be nested. -/
def nestingLimit : Nat := 1000

/-- The process that starts programs. -/
def startingProcess : Nat := 4242

/-- The state before anything runs: no input, and two streams for output. -/
def Machine.initial (surroundings : Surroundings) : Machine where
  shell := {
    name := ""
    directory := Octets.ofText surroundings.directory
    process := startingProcess
    bindings := surroundings.bindings.map fun (name, value) =>
      (name, { value := some (Octets.ofText value), exported := true }) }
  opened := #[{ backing := .device .nothing }, { backing := .memory "" }, { backing := .memory "" }]

/-- What was written to the stream at a place. -/
def Machine.written (machine : Machine) (place : Nat) : Bytes :=
  match machine.opened[place]? with
  | some { backing := .memory content, .. } => content.toBytes
  | _ => []

/-- Starts a program that was found by its name. -/
def startFound (name called : Octets) (args : List Octets) : Play m ExitStatus := do
  let runner : Runner m := runnerTo nestingLimit
  if name ∈ ["sh", "dash", "bash"] then
    match ← inNewShell runner called args with
    | (_, some signal) => pure (.signal signal)
    | (status, none) => pure (.code (UInt8.ofNat status))
  else return .code (UInt8.ofNat (← launch runner Builtin.startDepth name called args))

/-- The fault of a program that is no file. -/
def missing (program : Path) : FileError :=
  if program ∈ [".", ".."] then .denied
  else if program.utf8ByteSize > 255 ∧ !program.contains '/' then .nameTooLong
  else .notFound

/-- Starts a program and waits for its end. -/
def start (files : FileSystem m) (surroundings : Surroundings) (program : Path)
    (args : List String) : m (Except FileError ToolOutput) := do
  let called := Octets.ofText program
  let action : Play m (Except FileError ExitStatus) := do
    match ← findProgram called with
    | .program name _ => .ok <$> startFound name called (args.map Octets.ofText)
    | .denied => pure (.error (if program = "" then .notFound else .denied))
    | .nothing =>
      if program.contains '/' then
        match ← onFiles (·.read program) with
        | .error e => pure (.error e)
        | .ok _ => pure (.error .denied)
      else pure (.error (missing program))
  let (result, machine) ← ((action.run files).run).run (Machine.initial surroundings)
  match result with
  | .error _ => return .ok ⟨.code 0, machine.written 1, machine.written 2⟩
  | .ok (.error e) => return .error e
  | .ok (.ok status) => return .ok ⟨status, machine.written 1, machine.written 2⟩

end HybridTx.Script
