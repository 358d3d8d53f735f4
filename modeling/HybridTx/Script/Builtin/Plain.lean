import HybridTx.Script.Builtin.Basic
import HybridTx.Script.Launch

/-! Commands that write, test conditions, move between directories and tell what names mean. -/

namespace HybridTx.Script.Builtin

open Script

variable {m : Type → Type} [Monad m]

/-- Leaves the same status whatever it is given. -/
def leaving (status : Nat) : Builtin m := fun _ => pure status

/-- Writes its arguments. -/
def echo : Builtin m := fun args => say (Program.echoText args)

/-- Writes its arguments in a format. -/
def printf : Builtin m := fun args =>
  withLetters [] [] args fun _ args => do
    match args with
    | [] => fault "usage: printf format [arg ...]" 2
    | format :: args => do
      let printing := Program.Format.print ⟨.script, format.toList⟩ args
      let statuses ← printing.written.reverse.mapM fun (stream, text) => do
        if stream = 2 then
          complain text
          pure 0
        else say text
      pure (statuses.foldl max printing.status)

/-- Tests a condition. -/
def test : Builtin m := fun args => do
  let files ← read
  let directory := (← shell).directory
  let look (path : Octets) : m Program.Condition.Finding :=
    Program.Condition.sortAt files directory path
  let result ←
    (liftM (Program.Condition.ofScript look (args.length + 1) args) : Play m (Except Octets Bool))
  match result with
  | .ok true => pure 0
  | .ok false => pure 1
  | .error problem => fault problem 2

/-- Tests a condition in brackets. -/
def bracket : Builtin m := fun args =>
  if args.getLast? = some "]" then test args.dropLast else fault "missing ]" 2

/-! Directories -/

/-- Writes the directory. -/
def pwd : Builtin m := fun args =>
  withLetters ['L', 'P'] [] args fun _ _ => do say ((← shell).directory ++ "\n")

/-- Moves to a directory: the one that is named, the home directory, or the one before. -/
def cd : Builtin m := fun args =>
  withLetters ['L', 'P'] [] args fun _ args => do
    let current ← shell
    let target := match args with
      | "-" :: _ => (current.value? "OLDPWD").getD ""
      | target :: _ => target
      | [] => (current.value? "HOME").getD ""
    let path := if target = "" then current.directory
      else Program.tidy (Shell.resolve current.directory target)
    if !(← isDirectory target) && target ≠ "" then fault ("can't cd to " ++ target) 2
    setVariable "OLDPWD" current.directory
    setVariable "PWD" path
    modifyShell fun shell =>
      let marked := ["OLDPWD", "PWD"].foldl (fun (shell : Shell) name =>
        shell.put name { (shell.bindings.lookup name).getD {} with exported := true }) shell
      { marked with directory := path }
    if args.head? = some "-" then say (path ++ "\n") else pure 0

/-! Names -/

/-- The commands that scripts run themselves, besides those whose failure ends a script. -/
def plainNames : List String :=
  ["[", "alias", "bg", "cd", "chdir", "command", "echo", "false", "fg", "getopts", "hash", "jobs",
    "kill", "printf", "pwd", "read", "test", "true", "type", "ulimit", "umask", "unalias", "wait"]

/-- Tells what a name means: in short, as it could be called, or in words. Gives the status. -/
def describe (inWords : Bool) (name : Octets) : Play m Nat := do
  let current ← shell
  let tell (words : Octets) (short : Octets) : Play m Nat :=
    say ((if inWords then name ++ words else short) ++ "\n")
  if Keyword.spellings.any (·.1 = name) then tell " is a shell keyword" name
  else if name ∈ specialNames then tell " is a special shell builtin" name
  else if current.functions.any (·.1 = name) then tell " is a shell function" name
  else if name ∈ plainNames then tell " is a shell builtin" name
  else
    match ← findProgram name with
    | .program _ path => tell (" is " ++ path) path
    | .denied =>
      if name.contains '/' then tell (" is " ++ name) name
      else do
        let _ ← say (if inWords then name ++ ": not found\n" else "")
        pure 127
    | .nothing => do
      let _ ← say (if inWords then name ++ ": not found\n" else "")
      pure 127

/-- Tells what names mean. -/
def type : Builtin m := fun args => do
  let statuses ← args.mapM (describe true)
  pure (statuses.foldl max 0)

/-- Tells what a name means, if that is asked for. -/
def command : Builtin m := fun args =>
  withLetters ['v', 'V', 'p'] [] args fun given names => do
    match given.any (·.1 = 'V'), given.any (·.1 = 'v'), names with
    | true, _, name :: _ => describe true name
    | _, true, name :: _ => describe false name
    | _, _, _ => pure 0

/-- Makes sure that programs can be found. -/
def hash : Builtin m := fun args =>
  withLetters ['r', 'v'] [] args fun _ names => do
    let statuses ← names.mapM fun name => do
      if name ∈ plainNames || name ∈ specialNames ||
          (← shell).functions.any (·.1 = name) then pure 0
      else match ← findProgram name with
        | .program _ _ => pure 0
        | _ => do
          complain (name ++ ": not found")
          pure 1
    pure (statuses.foldl max 0)

/-- Shows or takes the permissions that new files do not get. Nothing here depends on them. -/
def umask : Builtin m := fun args =>
  withLetters ['S'] [] args fun given modes => do
    match modes with
    | [] => say (if given = [] then "0022\n" else "u=rwx,g=rx,o=rx\n")
    | mode :: _ =>
      let isNumber := (mode.toList.headD 'u').isDigit
      if isNumber ∧ !mode.all fun c => '0' ≤ c && c ≤ '7' then
        fault ("Illegal number: " ++ mode) 2
      else if !isNumber ∧ !mode.all fun c => c ∈ "ugoarwxXst+-=,".toList then
        fault ("Illegal mode: " ++ mode) 2
      else pure 0

/-- Shows the time that was used, which does not count here. -/
def times : Builtin m := fun _ =>
  say "0m0.000000s 0m0.000000s\n0m0.000000s 0m0.000000s\n"

/-- There are no limits to show but the lack of one. -/
def ulimit : Builtin m := fun args =>
  if args.all (·.startsWith "-") then say "unlimited\n" else pure 0

/-- Takes no job to the front or the back, as there is none. -/
def moveJob : Builtin m := fun _ => fault "No current job" 2

end HybridTx.Script.Builtin
