import HybridTx.Script.Reader.Command
import HybridTx.Script.Stream

/-! Running the text of a script, and running a part of a script by itself. -/

namespace HybridTx.Script

/-- What runs a command inside another. A command is tested if its failure does not count as one of
the script. -/
structure Runner (m : Type → Type) where
  run : (tested : Bool) → Command → Play m Unit

variable {m : Type → Type} [Monad m] (runner : Runner m)

/-- Runs what is left of a text, command by command, so that commands before a fault of form are
run. Tells whether there was any. -/
def runSource (tested : Bool) : (fuel : Nat) → (ran : Bool) → Source → Play m Bool
  | 0, ran, _ => pure ran
  | fuel + 1, ran, source => do
    match nextCommand? source with
    | .error found =>
      modifyShell ({ · with line := found.line })
      fault found.error.message 2
    | .ok none => pure ran
    | .ok (some (command, source)) =>
      if !(← hasOption 'n') then runner.run tested command
      runSource tested fuel true source

/-- Runs a text as commands. One without any leaves the status of success. -/
def runText (tested : Bool) (text : Octets) : Play m Unit := do
  let source : Source := { rest := text.toList.filter (· ≠ '\x00') }
  if !(← runSource runner tested (text.length + 1) false source) then leave 0

/-- Runs what was set up for the end of the script. -/
def runLastTrap : Play m Unit := do
  let current ← shell
  match current.traps.lookup 0 with
  | some action =>
    modifyShell fun shell =>
      { shell with traps := shell.traps.filter (·.1 ≠ 0), resting := some current.status }
    tryCatch (do
      runText runner false action
      leave current.status) fun
      | .killed process signal => throw (.killed process signal)
      | .ends => pure ()
      | _ => leave current.status
  | none => pure ()

/-- Runs a part to its end, whatever ends it; only a signal to another script goes further. -/
def settle (action : Play m Unit) : Play m Unit := do
  tryCatch action fun
    | .killed process signal => throw (.killed process signal)
    | _ => pure ()
  runLastTrap runner

/-- Runs a part in a copy of the shell. Only its status and what it did to files and streams
stay. -/
def inSubshell (action : Play m Unit) : Play m Unit := do
  let before ← shell
  modifyShell fun shell =>
    { shell with isPart := true, traps := shell.traps.filter (·.2 = "") }
  tryCatch (settle runner action) fun leaving => do
    modifyShell fun _ => before
    throw leaving
  let status ← status
  modifyShell fun _ => { before with status }

/-- The output of commands, without line breaks at its end. -/
def outputOf (command : Command) : Play m Octets := do
  let before ← status
  let (_, text) ← capture 1 (inSubshell runner (runner.run false command))
  let outputStatus ← status
  modifyShell ({ · with status := before, outputStatus })
  let kept := (text.toList.filter (· ≠ '\x00')).reverse.dropWhile (· = '\n')
  pure (String.ofList kept.reverse)

end HybridTx.Script
