import HybridTx.Script.Call

/-! Running commands that are made of others. Each command is run by structure; what is run by a
name or inside a word is run one level deeper, so the number of levels bounds the work. -/

namespace HybridTx.Script

variable {m : Type → Type} [Monad m] (runner : Runner m)

/-! Loops -/

/-- How a part of a loop is left: it comes to its end, or the loop goes on with its next round, or
the loop is over. -/
inductive Passage
  | through
  | again
  | over
deriving DecidableEq

/-- Runs a part of a loop. -/
def passing (action : Play m Unit) : Play m Passage :=
  tryCatch (do
    action
    pure .through) fun
    | .breaks loops => if loops ≤ 1 then pure .over else throw (.breaks (loops - 1))
    | .continues loops => if loops ≤ 1 then pure .again else throw (.continues (loops - 1))
    | leaving => throw leaving

/-- Counts one more loop around something. -/
def insideLoop (action : Play m Unit) : Play m Unit := do
  let before := (← shell).loops
  modifyShell ({ · with loops := before + 1 })
  ensuring (modifyShell ({ · with loops := before })) action

/-- Runs a body as long as a test succeeds, or as long as it fails. What is left is the status of
the last round. -/
def repeatWhile (wanted : Bool) (test body : Play m Unit) :
    (fuel : Nat) → (last : Nat) → Play m Unit
  | 0, last => leave last
  | fuel + 1, last => do
    match ← passing test with
    | .over => leave last
    | .again => repeatWhile wanted test body fuel last
    | .through =>
      if ((← status) == 0) != wanted then leave last
      else match ← passing body with
        | .over => pure ()
        | _ => repeatWhile wanted test body fuel (← status)

/-- How many rounds a loop may take. -/
def roundLimit : Nat := 100000

/-- Runs a body for each of some texts as the value of a variable. -/
def repeatFor (name : String) (body : Play m Unit) : List Octets → Play m Unit
  | [] => pure ()
  | text :: rest => do
    setVariable name text
    if (← passing body) ≠ .over then repeatFor name body rest

/-! Commands -/

/-- Runs something with a stream opened in place of the input. -/
def withInput (stream : OpenStream) (action : Play m Unit) : Play m Unit := do
  let before := (← shell).streams
  let place ← openNew stream
  modifyShell fun shell => { shell with streams := (0, place) :: shell.streams.filter (·.1 ≠ 0) }
  ensuring (restoreStreams before [0]) action

/-- Runs something by itself, and remembers the status that it left. -/
def inBackground (action : Play m Unit) : Play m Unit := do
  let machine ← getThe Machine
  let process := machine.nextProcess
  set { machine with nextProcess := process + 1 }
  withInput { backing := .device .nothing } (inSubshell runner action)
  let status ← status
  modifyThe Machine fun machine => { machine with ended := (process, status) :: machine.ended }
  modifyShell ({ · with background := some process, status := 0 })

mutual

/-- Runs a command. Its failure ends no script if it is tested. -/
def runCommand (tested : Bool) : Command → Play m Unit
  | .skip => pure ()
  | .simple line assignments words redirects => do
    if !(← hasOption 'n') then runSimple runner tested line assignments words redirects
  | .sequence first second => do
    runCommand tested first
    runCommand tested second
  | .both first second => do
    runCommand true first
    if (← status) = 0 then runCommand tested second
  | .either first second => do
    runCommand true first
    if (← status) ≠ 0 then runCommand tested second
  | .negation command => do
    runCommand true command
    leave (if (← status) = 0 then 1 else 0)
  | .choose test yes no => do
    runCommand true test
    if (← status) = 0 then runCommand tested yes
    else if no matches .skip then leave 0
    else runCommand tested no
  | .loop wanted test body =>
    insideLoop (repeatWhile wanted (runCommand true test) (runCommand tested body) roundLimit 0)
  | .each line name words body => do
    modifyShell ({ · with line })
    match ← expandWords runner words with
    | [] => leave 0
    | texts => insideLoop (repeatFor name (runCommand tested body) texts)
  | .select line subject arms => do
    modifyShell ({ · with line })
    let subject ← expandText runner .whole subject
    runArms tested subject.toList arms
  | .pipe first rest => do
    let (_, text) ← capture 1 (inSubshell runner (runCommand tested first))
    let isLast := !(rest matches .pipe _ _)
    withInput { backing := .memory text } <|
      if isLast then inSubshell runner (runCommand tested rest) else runCommand tested rest
    runTraps runner
    checkFailure tested
  | .background line command => do
    modifyShell ({ · with line })
    inBackground runner (runCommand false command)
  | .subshell line command redirects => do
    modifyShell ({ · with line })
    let openings ← expandRedirects runner redirects
    inSubshell runner do
      if ← openTargets runner openings then runCommand tested command
    runTraps runner
    checkFailure tested
  | .redirected line command redirects => do
    modifyShell ({ · with line })
    let openings ← expandRedirects runner redirects
    if !(← redirecting runner openings (runCommand tested command)) then
      leave 2
      checkFailure tested
  | .define name body => do
    modifyShell fun shell =>
      { shell with functions := (name, body) :: shell.functions.filter (·.1 ≠ name), status := 0 }

/-- Runs the first arm with a pattern that fits. -/
def runArms (tested : Bool) (subject : List Char) : Arms → Play m Unit
  | .none => leave 0
  | .arm patterns body rest => do
    let fits ← patterns.anyM fun pattern => do
      return Glob.fits (← expandPattern runner pattern) subject
    if !fits then runArms tested subject rest
    else if body matches .skip then leave 0
    else runCommand tested body

end

/-- What runs commands, as deep as is allowed. Scripts that go deeper are ended by the signal of a
stack that is used up. -/
def runnerTo : (depth : Nat) → Runner m
  | 0 => ⟨fun _ _ => do throw (.killed (← shell).process 11)⟩
  | depth + 1 => ⟨fun tested command => runCommand (runnerTo depth) tested command⟩

end HybridTx.Script
