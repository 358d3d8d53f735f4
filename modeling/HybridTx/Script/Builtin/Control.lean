import HybridTx.Script.Builtin.Basic
import HybridTx.Script.Launch

/-! Commands that change what is run next: leaving loops, functions and the script, running texts
and files as commands, and signals. -/

namespace HybridTx.Script.Builtin

open Script

variable {m : Type → Type} [Monad m]

/-- Leaves loops, or goes on with one of them. -/
def leaveLoops (goesOn : Bool) : Builtin m := fun args => do
  let count ← match args with
    | text :: _ => numberOf text
    | [] => pure 1
  if count = 0 then fault ("Illegal number: " ++ args.headD "") 2
  let loops := min count (← shell).loops
  leave 0
  if loops > 0 then throw (if goesOn then .continues loops else .breaks loops)
  pure 0

/-- Returns from a function or a file. -/
def returnBack : Builtin m := fun args => do
  leave (← match args with
    | text :: _ => numberOf text
    | [] => status)
  throw .returns

/-- Ends the script. -/
def exit : Builtin m := fun args => do
  let current ← shell
  leave (← match args with
    | text :: _ => numberOf text
    | [] => pure (current.resting.getD current.status))
  throw .ends

variable (runner : Runner m)

/-- Runs its arguments as the text of commands. -/
def eval (tested : Bool) : Builtin m := fun args => do
  if args = [] then pure 0
  else
    runText runner tested (" ".intercalate args)
    status

/-- How many programs may start one another. -/
def startDepth : Nat := 10000

/-- Runs a program in place of the script, or only leaves its streams redirected. -/
def exec : Builtin m := fun args => do
  if args = [] then return 0
  match ← startWords runner startDepth args with
  | .ok status => do
    leave status
    modifyShell fun shell => { shell with traps := [] }
    throw .ends
  | .error e => do
    let reason := if e = .notFound then "not found" else e.reason
    complain (args.headD "" ++ ": " ++ reason)
    leave (failedStart e)
    throw .ends

/-- The path of a file of commands, which is looked for like a program unless it is a path. -/
def findFile (name : Octets) : Play m Octets := do
  if name.contains '/' then return name
  let directories := (((← shell).value? "PATH").getD usualDirectories).splitOn ":"
  let paths := directories.map fun directory =>
    if directory = "" then name else Path.join directory name
  let found ← paths.filterM fun path => do
    if ← isDirectory path then pure false else isPresent path
  match found with
  | path :: _ => pure path
  | [] => fault (name ++ ": not found") 2

/-- Runs the commands in a file. -/
def runFile : Builtin m := fun args =>
  withLetters [] [] args fun _ names => do
    match names with
    | [] => pure 0
    | name :: _ => do
      let path ← findFile name
      match ← openFile path .read with
      | .error e => fault (openMessage path .read e) 2
      | .ok place => do
        let text := (← restAt place).toOption.getD ""
        modifyShell ({ · with complainer := some path })
        tryCatch (runText runner false text) fun
          | .returns => pure ()
          | leaving => throw leaving
        status

/-! Signals -/

/-- The names of the signals from the first on, as scripts know them. One signal has no name there,
and those for a program's own use are counted from both ends of their range. -/
def signalNames : List Octets :=
  let low := (List.range 15).map fun k => "RTMIN+" ++ toString (k + 1)
  let high := (List.range 14).map fun k => "RTMAX-" ++ toString (14 - k)
  Signal.names.set 15 "16" ++ ["32", "33", "RTMIN"] ++ low ++ high ++ ["RTMAX"]

/-- The signal with a number or a name. The end of the script counts as one if that is allowed. -/
def signal? (orEnd : Bool) (text : Octets) : Option Signal :=
  match Program.number? text with
  | some number => if number < 65 then some number else none
  | none =>
    if text.toUpper = "EXIT" ∧ orEnd then some 0
    else (signalNames.idxOf? text.toUpper).map (· + 1)

/-- The name of a signal. -/
def signalName (signal : Signal) : Octets :=
  if signal = 0 then "EXIT" else signalNames.getD (signal - 1) (toString signal)

/-- Says what is to be done at signals and at the end, or lists that. -/
def trap : Builtin m := fun args =>
  withLetters [] [] args fun _ args => do
    let (action?, names) : Option Octets × List Octets := match args with
      | first :: second :: rest =>
        if (Program.number? first).any (· < 65) then (none, args)
        else (if first = "-" then none else some first, second :: rest)
      | args => (none, args)
    match names with
    | [] => do
      let traps := (← shell).traps.mergeSort fun a b => a.1 ≤ b.1
      say (String.join (traps.map fun (signal, action) =>
        "trap -- " ++ singleQuoted action ++ " " ++ signalName signal ++ "\n"))
    | names => go action? names
where
  /-- Sets the same for each signal, up to one that is none. -/
  go (action? : Option Octets) : List Octets → Play m Nat
    | [] => pure 0
    | name :: rest => do
      match signal? true name with
      | none => do
        grumble ("trap: " ++ name ++ ": bad trap")
        pure 1
      | some signal => do
        modifyShell fun shell =>
          let others := shell.traps.filter (·.1 ≠ signal)
          { shell with traps := match action? with
              | some action => (signal, action) :: others
              | none => others }
        go action? rest

/-- Sends a signal to a process, and tells whether there is such a process. None but this script and
those around it still run; what has ended stays until it is waited for. -/
def sendSignal (signal : Signal) (process : Nat) : Play m Bool := do
  let current ← shell
  let machine ← getThe Machine
  if process ≥ machine.nextProcess || process = 0 then pure false
  else if signal = 0 || machine.ended.any (·.1 = process) then pure true
  else if process = current.process && !current.isPart && signal ≠ 9 then
    match current.traps.lookup signal with
    | some "" => pure true
    | some _ => do
      set { machine with pending := machine.pending ++ [signal] }
      pure true
    | none =>
      if signal.isIgnored then pure true else throw (.killed process signal)
  else if signal.isIgnored then pure true
  else throw (.killed process signal)

/-- How sending signals is used. -/
def killUsage : Octets :=
  "Usage: kill [-s sigspec | -signum | -sigspec] [pid | job]... or\nkill -l [exitstatus]"

/-- Sends a signal to processes, or lists signals. -/
def kill : Builtin m := fun args => do
  match args with
  | [] => fault killUsage 2
  | first :: rest =>
    let direct? := if first.startsWith "-" then signal? false (first.drop 1).toString else none
    match direct? with
    | some signal => send signal rest
    | none =>
      withLetters ['l'] ['s'] args fun given rest => do
        let signals ← (given.filter (·.1 = 's')).mapM fun (_, name) => do
          match signal? false name with
          | some signal => pure signal
          | none => fault ("invalid signal number or name: " ++ name) 2
        if given.any (·.1 = 'l') then
          if signals ≠ [] then fault killUsage 2
          match rest with
          | [] =>
            say ("0\n" ++ String.join (signalNames.map (· ++ "\n")))
          | text :: _ => do
            let number ← numberOf text
            let signal := if number > 128 then number - 128 else number
            if 0 < signal ∧ signal < 65 then say (signalName signal ++ "\n")
            else fault ("invalid signal number or exit status: " ++ text) 2
        else send (signals.getLast?.getD 15) rest
where
  /-- Sends a signal to each process. -/
  send (signal : Signal) (targets : List Octets) : Play m Nat := do
    if targets = [] then fault killUsage 2
    let sent ← targets.mapM fun text => do
      let process ← numberOf text
      let there ← sendSignal signal process
      if !there then complain "No such process\n"
      pure there
    pure (if sent.all id then 0 else 1)

/-- Waits for processes in the background, which have all ended. -/
def wait : Builtin m := fun args => do
  let statuses ← args.mapM fun text => do
    let process ← numberOf text
    let machine ← getThe Machine
    set { machine with ended := machine.ended.filter (·.1 ≠ process) }
    pure ((machine.ended.lookup process).getD 127)
  pure (statuses.getLast?.getD 0)

end HybridTx.Script.Builtin
