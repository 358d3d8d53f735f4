import HybridTx.Program.Table
import HybridTx.Script.Redirection

/-! Starting programs from a script: the plain ones, those that start others, and the interpreter of
scripts itself. -/

namespace HybridTx.Script

open Program (OptionTable Given quote)

/-- What a name of a program leads to. -/
inductive Found
  | program (name path : Octets)
  | denied
  | nothing
deriving DecidableEq

/-- The directories in which programs are looked for if none are named. -/
def usualDirectories : Octets := "/usr/local/sbin:/usr/local/bin:/usr/sbin:/usr/bin:/sbin:/bin"

variable {m : Type → Type} [Monad m]

/-- What is at the path of a program. -/
def findAt (path : Octets) : Play m Found := do
  match Program.nameAt? path with
  | some name => pure (.program name path)
  | none => if ← isPresent path then pure .denied else pure .nothing

/-- Looks for a program in the directories for programs, unless its name is a path. -/
def findProgram (name : Octets) : Play m Found := do
  if name.contains '/' then findAt name
  else if name = "" then pure .denied
  else
    let directories := (((← shell).value? "PATH").getD usualDirectories).splitOn ":"
    let found ← directories.mapM fun directory =>
      findAt (if directory = "" then name else Path.join directory name)
    let program? := found.find? (· matches .program _ _)
    pure ((program?.or (found.find? (· = .denied))).getD .nothing)

/-- Runs a plain program on the streams of the script. -/
def runProgram (program : Program.Routine m) (called : Octets) (args : List Octets) :
    Play m Nat := do
  let files ← read
  let current ← shell
  let place? ← placeOf? 0
  let input : Octets ← match place? with
    | some place => do pure ((← restAt place).toOption.getD "")
    | none => pure ""
  let opened := (← getThe Machine).opened
  let inputIsFile := match place?.bind fun place => opened[place]? with
    | some { backing := .file _, .. } => true
    | _ => false
  let site : Program.Site m :=
    { files, name := called, directory := current.directory, bindings := current.surroundings }
  let (status, job) ← (liftM (((program args).run site).run { input, inputIsFile }) : Play m _)
  if let some place := place? then skipAt place (input.length - job.input.length)
  let written ← job.written.reverse.mapM fun (stream, text) => do
    if text = "" then pure none
    else return match ← writeTo stream text with
      | .ok () => none
      | .error reason => some reason
  match written.findSome? id with
  | none => pure (status % 256)
  | some reason => do
    grumble (called ++ ": write error: " ++ reason)
    pure 1

/-! The interpreter -/

/-- The variables that a script starts with, besides those it is given. -/
def firstVariables (directory : Octets) (parent : Nat) : List (String × Variable) :=
  [("IFS", { value := some " \t\n" }), ("OPTIND", { value := some "1" }),
    ("PPID", { value := some (toString parent) }), ("PS1", { value := some "# " }),
    ("PS2", { value := some "> " }), ("PS4", { value := some "+ " }),
    ("PWD", { value := some directory, exported := true })]

/-- A new script that another starts. It is given variables, streams and signals to ignore. -/
def Shell.renewed (before : Shell) (name : Octets) (process : Nat) : Shell :=
  let first := firstVariables before.directory before.process
  let given := before.surroundings.filter fun (name, _) => (first.lookup name).isNone
  { name, process
    directory := before.directory
    streams := before.streams
    traps := before.traps.filter (·.2 = "")
    bindings := first ++ given.map fun (name, value) =>
      (name, { value := some value, exported := true }) }

variable (runner : Runner m)

/-- Runs a script as its arguments say: a text of commands, a file, or the input. -/
def interpret (args : List Octets) : Play m Unit := do
  modifyShell ({ · with line := 0 })
  match OptionReading.ofArguments true [] args with
  | .error problem => fault problem 2
  | .ok reading =>
    modifyShell ({ · with options := reading.options })
    let runAs (parameters : List Octets) (text : Octets) : Play m Unit := do
      modifyShell ({ · with parameters, line := 1 })
      runText runner false text
    let rename (name : Octets) : Play m Unit := modifyShell ({ · with name })
    match reading.rest with
    | [] =>
      if reading.isCommand then fault "-c requires an argument" 2
      else do
        modifyShell ({ · with options := Options.turn reading.options 's' true })
        runAs [] (← takeInput)
    | text :: rest =>
      if reading.isCommand then
        if let name :: _ := rest then rename name
        runAs rest.tail text
      else if 's' ∈ reading.options then runAs (text :: rest) (← takeInput)
      else
        match ← openFile text .read with
        | .error e => fault (openMessage text .read e) 2
        | .ok place => do
          rename text
          runAs rest ((← restAt place).toOption.getD "")

/-- Runs a script as a process of its own, and tells the signal that ended it, if one did. -/
def inNewShell (name : Octets) (args : List Octets) : Play m (Nat × Option Signal) := do
  let machine ← getThe Machine
  let process := machine.nextProcess
  let before := machine.shell
  set { machine with
    nextProcess := process + 1
    shell := before.renewed name process
    pending := [] }
  let comeBack : Play m Unit := modifyThe Machine fun after =>
    { after with shell := before, pending := machine.pending }
  let signal? ← tryCatch (do
    settle runner (interpret runner args)
    pure none) fun
    | .killed victim signal =>
      if victim = process then pure (some signal)
      else do
        comeBack
        throw (.killed victim signal)
    | leaving => throw leaving
  let status ← status
  comeBack
  pure (status % 256, signal?)

/-- Runs a script that another waits for. -/
def interpretInside (name : Octets) (args : List Octets) : Play m Nat := do
  match ← inNewShell runner name args with
  | (status, none) => pure status
  | (_, some signal) => do
    if Signal.name? signal ∉ [some "INT", some "PIPE"] then grumble signal.remark
    pure (128 + signal)

/-! Programs that start others -/

/-- The status of a program that could not be started. -/
def failedStart (fault : FileError) : Nat := if fault = .notFound then 127 else 126

/-- Cuts a text into words at blanks and lines. Quotes and backslashes keep blanks. None is given
for a quote that does not end. -/
def cutWords : (fuel : Nat) → (word : Option (List Char)) → List Char →
    Except Char (List Octets)
  | 0, word, _ | _, word, [] => .ok (word.toList.map fun word => String.ofList word.reverse)
  | fuel + 1, word, c :: rest =>
    let goOn (more : List Char) (rest : List Char) :=
      cutWords fuel (some (more.reverse ++ word.getD [])) rest
    if c = ' ' ∨ c = '\t' ∨ c = '\n' then do
      let words ← cutWords fuel none rest
      .ok (word.toList.map (fun word => String.ofList word.reverse) ++ words)
    else if c = '\'' ∨ c = '"' then
      let inside := rest.takeWhile fun d => d ≠ c ∧ d ≠ '\n'
      match rest.drop inside.length with
      | d :: rest => if d = c then goOn inside rest else .error c
      | [] => .error c
    else
      match c, rest with
      | '\\', d :: rest => goOn [d] rest
      | _, _ => goOn [c] rest

/-- Lists of so many items each. -/
def inGroups {α : Type} (count : Nat) : (fuel : Nat) → List α → List (List α)
  | 0, _ | _, [] => []
  | fuel + 1, items => items.take count :: inGroups count fuel (items.drop count)

/-- The options of handing items on. -/
def handingTable : OptionTable :=
  { flags := ['0', 'r', 't', 'x'], valued := ['n', 'I', 'd', 'L', 'P', 's', 'E', 'a']
    long := [("null", '0'), ("no-run-if-empty", 'r'), ("max-args", 'n'), ("delimiter", 'd'),
      ("max-lines", 'L'), ("max-procs", 'P'), ("verbose", 't'), ("replace", 'I')]
    anywhere := false }

/-- The words of each run of a command over the items of a text. -/
def handOut (given : Given) (command : List Octets) (text : Octets) :
    Except Char (List (List Octets)) := do
  let chars := text.toList
  let parts (mark : Char) : List Octets :=
    let parts := text.splitOn (String.singleton mark)
    if parts.getLast? = some "" then parts.dropLast else parts
  let words (text : List Char) := cutWords (text.length + 1) none text
  match given.value? 'I' with
  | some sign =>
    let lines := (parts '\n').map fun line =>
      String.ofList (line.toList.dropWhile fun c => c = ' ' ∨ c = '\t')
    return (lines.filter (· ≠ "")).map fun line => command.map fun word => word.replace sign line
  | none =>
    let mark? := if given.has '0' then some '\x00' else
      match given.value? 'd' with
      | some "\\n" => some '\n'
      | some "\\0" => some '\x00'
      | some "\\t" => some '\t'
      | some mark => mark.toList.head?
      | none => none
    let size := (chars.length + 1)
    let number (c : Char) : Option Nat := (given.value? c).bind String.toNat?
    let groups ← match mark?, number 'L' with
      | some mark, _ => pure (inGroups ((number 'n').getD size) size (parts mark))
      | none, some lines => do
        let found ← ((parts '\n').filter (· ≠ "")).mapM fun line => words line.toList
        pure ((inGroups lines size found).map List.flatten)
      | none, none => do pure (inGroups ((number 'n').getD size) size (← words chars))
    let groups := if groups = [] ∧ !given.has 'r' then [[]] else groups
    return groups.map fun group => command ++ group

/-- Sets variables of the surroundings that programs are given. -/
def surroundWith (assignments : List Octets) : Play m Unit :=
  modifyShell fun shell => assignments.foldl (fun shell text =>
    let name := (text.takeWhile (· ≠ '=')).toString
    let value := (text.drop (name.length + 1)).toString
    shell.put name { value := some value, exported := true }) shell

/-- Complains about how a program was called. -/
def refuseUsage (called problem : Octets) (status : Nat) : Play m Nat := do
  if problem ≠ "" then grumble (called ++ ": " ++ problem)
  grumble ("Try '" ++ called ++ " --help' for more information.")
  pure status

/-- A number of seconds, or of longer units. -/
def isInterval (text : Octets) : Bool :=
  match Program.Real.read? text.toList with
  | some (value, rest) => !value.negative && (rest matches [] | ['s'] | ['m'] | ['h'] | ['d'])
  | none => false

mutual

/-- Runs the words of a command as a program, or tells why it cannot be started. `depth` bounds how
many programs start one another. -/
def startWords : (depth : Nat) → List Octets → Play m (Except FileError Nat)
  | 0, _ | _, [] => pure (.ok 0)
  | depth + 1, called :: args => do
    match ← findProgram called with
    | .denied => pure (.error .denied)
    | .nothing => pure (.error .notFound)
    | .program name _ => .ok <$> launch depth name called args

/-- Runs the program with a name. -/
def launch : (depth : Nat) → (name called : Octets) → List Octets → Play m Nat
  | 0, _, _, _ => pure 126
  | depth + 1, name, called, args => do
    let onward (failure : Octets → Octets) (words : List Octets) : Play m Nat := do
      match ← startWords depth words with
      | .ok status => pure status
      | .error e => do
        grumble (called ++ ": " ++ failure (words.headD "") ++ ": " ++ e.reason)
        pure (failedStart e)
    let failedToRun (name : Octets) : Octets := "failed to run command " ++ quote name
    let withTable (table : OptionTable) (run : Given → Play m Nat) : Play m Nat :=
      match Program.readOptions table (args.length + 1) {} args with
      | .ok given => run given
      | .error problem => refuseUsage called problem (if name = "which" then 2 else 125)
    match name with
    | "sh" | "dash" | "bash" => interpretInside runner called args
    | "env" =>
      let table : OptionTable :=
        { flags := ['i', '0', 'v'], valued := ['u', 'C', 'S'], anywhere := false
          long := [("ignore-environment", 'i'), ("unset", 'u'), ("null", '0'), ("chdir", 'C')] }
      withTable table fun given => do
        let before ← shell
        let words := if given.operands.head? = some "-" then given.operands.tail else given.operands
        let isEmpty := given.has 'i' || given.operands.head? = some "-"
        let dropped := given.options.filterMap fun (c, value) =>
          if c = 'u' then some value else none
        modifyShell fun shell =>
          { shell with bindings := shell.bindings.filter fun (name, _) =>
              !isEmpty && name ∉ dropped }
        let assignments := words.takeWhile (·.contains '=')
        surroundWith assignments
        ensuring (modifyShell fun _ => before) do
          match words.drop assignments.length with
          | [] => do
            let ending := if given.has '0' then "\x00" else "\n"
            let lines := (← shell).surroundings.map fun (name, value) =>
              name ++ "=" ++ value ++ ending
            let _ ← writeTo 1 (String.join lines)
            pure 0
          | words => onward quote words
    | "nohup" =>
      match args with
      | [] => refuseUsage called "missing operand" 125
      | words => onward failedToRun words
    | "nice" =>
      let table : OptionTable :=
        { flags := [], valued := ['n'], anywhere := false, long := [("adjustment", 'n')] }
      withTable table fun given => do
        match (given.value? 'n').filter (fun text => text.toInt?.isNone), given.operands with
        | some bad, _ => do
          grumble (called ++ ": invalid adjustment " ++ quote bad)
          pure 125
        | none, [] => do
          let _ ← writeTo 1 "0\n"
          pure 0
        | none, words => onward quote words
    | "timeout" =>
      let table : OptionTable :=
        { flags := ['v'], valued := ['k', 's'], anywhere := false
          long := [("kill-after", 'k'), ("signal", 's'), ("verbose", 'v'), ("foreground", 'v'),
            ("preserve-status", 'v')] }
      withTable table fun given => do
        match given.operands with
        | [] | [_] => refuseUsage called "" 125
        | interval :: words =>
          if isInterval interval then onward failedToRun words
          else refuseUsage called ("invalid time interval " ++ quote interval) 125
    | "which" =>
      withTable { flags := ['a', 's'] } fun given => do
        let found ← given.operands.mapM findProgram
        let paths := found.filterMap fun
          | .program _ path => some (path ++ "\n")
          | _ => none
        let _ ← writeTo 1 (String.join paths)
        pure (if paths.length = given.operands.length ∧ paths ≠ [] then 0 else 1)
    | "xargs" =>
      withTable handingTable fun given => do
        let command := if given.operands = [] then ["echo"] else given.operands
        let text ← takeInput
        match handOut given command text with
        | .error mark => do
          let kind := if mark = '"' then "double" else "single"
          grumble (called ++ ": unmatched " ++ kind ++
            " quote; by default quotes are special to xargs unless you use the -0 option")
          pure 1
        | .ok runs => handOn depth called (given.has 't') runs
    | name =>
      match Program.ofName? name with
      | some program => runProgram program called args
      | none => pure 127

/-- Runs a command for the items of the input, one run after another. -/
def handOn : (depth : Nat) → (called : Octets) → (shows : Bool) → List (List Octets) → Play m Nat
  | 0, _, _, _ | _, _, _, [] => pure 0
  | depth + 1, called, shows, words :: rest => do
    if shows then grumble (" ".intercalate words)
    let command := words.headD ""
    let before := (← shell).streams
    let place ← openNew { backing := .device .nothing }
    modifyShell fun shell => { shell with streams := (0, place) :: shell.streams.filter (·.1 ≠ 0) }
    let result ← ensuring (restoreStreams before [0]) (startWords depth words)
    match result with
    | .error e => do
      grumble (called ++ ": " ++ command ++ ": " ++ e.reason)
      pure (failedStart e)
    | .ok 255 => do
      grumble (called ++ ": " ++ command ++ ": exited with status 255; aborting")
      pure 124
    | .ok status => do
      let later ← handOn depth called shows rest
      pure (if later ∈ [124, 126, 127] then later else if status = 0 then later else 123)

end

end HybridTx.Script
