import HybridTx.Script.Builtin.Control
import HybridTx.Script.Builtin.Plain
import HybridTx.Script.Builtin.Variables

/-! Simple commands: their words, redirections and assignments, and what their names call. -/

namespace HybridTx.Script

variable {m : Type → Type} [Monad m] (runner : Runner m)

/-- The command with a name that scripts run themselves. -/
def builtin? (tested : Bool) (name : Octets) : Option (Builtin m) :=
  match name with
  | "." => some (Builtin.runFile runner)
  | ":" | "true" => some (Builtin.leaving 0)
  | "[" => some Builtin.bracket
  | "alias" | "jobs" => some (Builtin.leaving 0)
  | "bg" | "fg" => some Builtin.moveJob
  | "break" => some (Builtin.leaveLoops false)
  | "cd" | "chdir" => some Builtin.cd
  | "command" => some Builtin.command
  | "continue" => some (Builtin.leaveLoops true)
  | "echo" => some Builtin.echo
  | "eval" => some (Builtin.eval runner tested)
  | "exec" => some (Builtin.exec runner)
  | "exit" => some Builtin.exit
  | "export" => some Builtin.exportNames
  | "false" => some (Builtin.leaving 1)
  | "getopts" => some Builtin.readOption
  | "hash" => some Builtin.hash
  | "kill" => some Builtin.kill
  | "local" => some Builtin.hideNames
  | "printf" => some Builtin.printf
  | "pwd" => some Builtin.pwd
  | "read" => some Builtin.readLine
  | "readonly" => some Builtin.fixNames
  | "return" => some Builtin.returnBack
  | "set" => some Builtin.setOptions
  | "shift" => some Builtin.shiftParameters
  | "test" => some Builtin.test
  | "times" => some Builtin.times
  | "trap" => some Builtin.trap
  | "type" => some Builtin.type
  | "ulimit" => some Builtin.ulimit
  | "umask" => some Builtin.umask
  | "unalias" => some (Builtin.leaving 0)
  | "unset" => some Builtin.unsetNames
  | "wait" => some Builtin.wait
  | _ => none

/-- Commands whose arguments may be assignments. -/
def declaringNames : List String := ["alias", "export", "local", "readonly"]

/-! Words -/

/-- Fills in words until there is a field, which is the name of a command. -/
def expandName : List Word → Play m (List Octets × List Word)
  | [] => pure ([], [])
  | word :: rest => do
    match ← expandWord runner word with
    | [] => expandName rest
    | fields => pure (fields, rest)

/-- Fills in an argument that may be an assignment, which is not cut. -/
def expandDeclared (word : Word) : Play m (List Octets) := do
  match assignment? word with
  | some (name, value) => return [name ++ "=" ++ (← expandText runner .assignment value)]
  | none => expandWord runner word

/-- The name that a word spells. -/
def spells (names : List String) (word : Word) : Bool := (Word.plain? word).any (· ∈ names)

/-- Fills in the words of a command. -/
def expandCall (words : List Word) : Play m (List Octets) := do
  let (fields, rest) ← expandName runner words
  let functions := (← shell).functions
  let declares : Bool := match fields.head? with
    | some "command" =>
      let named := rest.dropWhile fun word => ((Word.plain? word).any (·.startsWith "-") : Bool)
      named.head?.any (spells declaringNames)
    | some name => name ∈ declaringNames && !functions.any (·.1 = name)
    | none => false
  let args ← rest.mapM (if declares then expandDeclared runner else expandWord runner)
  pure (fields ++ args.flatten)

/-- The words behind `command` and its options, if they are to be run: no function counts then, and
failure ends no script. -/
def commanded? : (fuel : Nat) → List Octets → Option (List Octets)
  | 0, _ | _, [] => none
  | fuel + 1, word :: rest =>
    match word.toList with
    | ['-', '-'] => if rest = [] then none else some rest
    | '-' :: 'p' :: letters => if letters.all (· = 'p') then commanded? fuel rest else none
    | '-' :: _ :: _ => none
    | _ => some (word :: rest)

/-- What a name calls, in the order in which the meanings are looked for. -/
inductive Callee (m : Type → Type)
  | nothing
  | builtin (run : Builtin m) (special : Bool)
  | function (body : Command)
  | program

/-- A command with its words filled in, and what it calls. -/
structure Call (m : Type → Type) where
  words : List Octets
  callee : Callee m

/-- Finds what words call. -/
def findCallee (tested : Bool) (words : List Octets) : Play m (Call m) := do
  let functions := (← shell).functions
  let lookUp (plain : Bool) (words : List Octets) : Call m :=
    match words with
    | [] => { words, callee := .nothing }
    | name :: _ =>
      let special := name ∈ specialNames
      match builtin? runner tested name, functions.lookup name with
      | some run, none => { words, callee := .builtin run (special && !plain) }
      | some run, some body =>
        { words
          callee := if special || plain then .builtin run (special && !plain) else .function body }
      | none, some body => { words, callee := if plain then .program else .function body }
      | none, none => { words, callee := .program }
  match words with
  | "command" :: rest =>
    if functions.any (·.1 = "command") then pure (lookUp false words)
    else match commanded? (rest.length + 1) rest with
      | some inner => pure (lookUp true inner)
      | none => pure (lookUp false words)
  | words => pure (lookUp false words)

/-! Running -/

/-- Ends the script after a failure, if failures are to end it and this one counts. -/
def checkFailure (tested : Bool) : Play m Unit := do
  if !tested && (← hasOption 'e') && (← status) ≠ 0 then throw .ends

/-- Runs what was set up for the signals that have come. -/
def runTraps : Play m Unit := do
  let machine ← getThe Machine
  if machine.pending ≠ [] then
    set { machine with pending := [] }
    machine.pending.forM fun signal => do
      let before ← shell
      if let some action := before.traps.lookup signal then
        modifyShell ({ · with resting := some (before.resting.getD before.status) })
        ensuring (modifyShell ({ · with resting := before.resting })) (runText runner false action)
        leave before.status

/-- Runs the body of a function with parameters and variables of its own. -/
def callFunction (tested : Bool) (body : Command) (parameters : List Octets) : Play m Unit := do
  let before ← shell
  modifyShell fun shell =>
    { shell with parameters, loops := 0, hidden := [] :: shell.hidden, scanned := (1, 0) }
  let comeBack : Play m Unit := modifyShell fun shell =>
    let own := shell.hidden.headD []
    let shown := own.foldl (fun (shell : Shell) (name, held?) => match held? with
      | some held => shell.put name held
      | none => shell.drop name) shell
    { shown with
      parameters := before.parameters, loops := before.loops, hidden := before.hidden
      scanned := before.scanned }
  ensuring comeBack <|
    tryCatch (runner.run tested body) fun
      | .returns => pure ()
      | leaving => throw leaving

/-- Runs a command of the script itself. Its complaints carry its name. Unless it is a special one,
a fault ends only the command. -/
def callBuiltin (run : Builtin m) (special : Bool) (name : Octets) (args : List Octets) :
    Play m Unit := do
  let before := (← shell).complainer
  modifyShell ({ · with complainer := some name })
  ensuring (modifyShell ({ · with complainer := before })) <|
    tryCatch (do leave (← run args)) fun leaving =>
      match leaving, special with
      | .faults, false => pure ()
      | leaving, _ => throw leaving

/-- Runs a program. -/
def callProgram (words : List Octets) : Play m Unit := do
  match ← startWords runner Builtin.startDepth words with
  | .ok status => leave status
  | .error e => do
    let reason := if e = .notFound then "not found" else e.reason
    complain (words.headD "" ++ ": " ++ reason)
    leave (failedStart e)

/-- Shows a command before it is run. -/
def traceCall (stream? : Option Nat) (assigned : List (String × Octets)) (words : List Octets) :
    Play m Unit := do
  if ← hasOption 'x' then
    let mark := ((← shell).value? "PS4").getD ""
    let texts := assigned.map (fun (name, value) => name ++ "=" ++ value) ++ words
    if let some place := stream? then
      let _ ← writeAt place (mark ++ " ".intercalate texts ++ "\n")

/-- Sets variables in order, each perhaps depending on those before, and gives what they were set
to. For programs they are marked to be handed on. -/
def assignAll (exported : Bool) (assignments : List (String × Word)) :
    Play m (List (String × Octets)) :=
  assignments.mapM fun (name, word) => do
    let value ← expandText runner .assignment word
    setVariable name value
    if exported then
      modifyShell fun shell =>
        shell.put name { (shell.bindings.lookup name).getD {} with exported := true }
    pure (name, value)

/-- Puts variables back as they were. -/
def restoreVariables (before : List (String × Variable)) (names : List String) : Play m Unit :=
  modifyShell fun shell => names.foldl (fun (shell : Shell) name => match before.lookup name with
    | some held => shell.put name held
    | none => shell.drop name) shell

/-- Runs a simple command. Its words are filled in first, then its streams are redirected, then its
variables are set. Assignments last if nothing is called, or a special command. -/
def runSimple (tested : Bool) (line : Nat) (assignments : List (String × Word)) (words : List Word)
    (redirects : List Redirect) : Play m Unit := do
  modifyShell ({ · with line, outputStatus := 0 })
  let call ← findCallee runner tested (← expandCall runner words)
  let openings ← expandRedirects runner redirects
  let before ← shell
  let isExec := call.words.head? = some "exec" && call.callee matches .builtin _ _
  let special := call.callee matches .builtin _ true
  let lasting := special || call.callee matches .nothing
  let streams := openings.map (·.1)
  let act : Play m Unit := do
    if ← openTargets runner openings then
      let assigned ← assignAll runner (!lasting || isExec) assignments
      traceCall (before.streams.lookup 2) assigned call.words
      let args := call.words.drop 1
      match call.callee with
      | .nothing => leave (← shell).outputStatus
      | .builtin run special => callBuiltin run special (call.words.headD "") args
      | .function body => callFunction runner tested body args
      | .program => callProgram runner call.words
    else
      leave 2
      if special then throw .faults
  let comeBack : Play m Unit := do
    if !isExec then restoreStreams before.streams streams
    if !lasting then restoreVariables before.bindings (assignments.map (·.1))
  ensuring comeBack act
  runTraps runner
  checkFailure tested

end HybridTx.Script
