import HybridTx.Script.Builtin.Basic

/-! Commands on variables, parameters and options. -/

namespace HybridTx.Script.Builtin

open Script

variable {m : Type → Type} [Monad m]

/-- Splits an argument into a name and the value behind the sign. -/
def splitAssignment (text : Octets) : Octets × Option Octets :=
  let chars := text.toList
  let name := chars.takeWhile (· ≠ '=')
  match chars.drop name.length with
  | _ :: value => (String.ofList name, some (String.ofList value))
  | [] => (text, none)

/-- Lists variables that can be read back, each behind a command. -/
def listing (command : Octets) (bindings : List (String × Variable)) : Octets :=
  let sorted := bindings.mergeSort fun a b => a.1 ≤ b.1
  let start := if command = "" then "" else command ++ " "
  String.join (sorted.map fun (name, held) => match held.value with
    | some value => start ++ name ++ "=" ++ singleQuoted value ++ "\n"
    | none => start ++ name ++ "\n")

/-- Marks variables, and sets those that are given a value. -/
def marking (command : Octets) (isMarked : Variable → Bool) (mark : Variable → Variable) :
    Builtin m := fun args =>
  withLetters ['p'] [] args fun given names => do
    if given ≠ [] ∨ names = [] then
      say (listing command ((← shell).bindings.filter fun (_, held) => isMarked held))
    else
      names.forM fun text => do
        let (name, value?) := splitAssignment text
        if let some value := value? then assignVariable name value
        else if !isName name then fault (name ++ ": bad variable name") 2
        modifyShell fun shell => shell.put name (mark ((shell.bindings.lookup name).getD {}))
      pure 0

/-- Hands variables on to programs. -/
def exportNames : Builtin m := marking "export" Variable.exported ({ · with exported := true })

/-- Makes variables that cannot be set again. -/
def fixNames : Builtin m := marking "readonly" Variable.readOnly ({ · with readOnly := true })

/-- Takes variables or functions away. -/
def unsetNames : Builtin m := fun args =>
  withLetters ['v', 'f'] [] args fun given names => do
    let ofFunctions := given.getLast?.map (·.1) = some 'f'
    names.forM fun name => do
      if ofFunctions then
        modifyShell fun shell => { shell with functions := shell.functions.filter (·.1 ≠ name) }
      else if !isName name then fault (name ++ ": bad variable name") 2
      else
        let held := ((← shell).bindings.lookup name).getD {}
        if held.readOnly then fault (name ++ ": is read only") 2
        modifyShell (·.drop name)
    pure 0

/-- Gives a function variables of its own. They keep their values unless they are given others. -/
def hideNames : Builtin m := fun args => do
  match (← shell).hidden with
  | [] => fault "not in a function" 2
  | _ => do
    args.forM fun text => do
      let (name, value?) := splitAssignment text
      if name ≠ "-" then
        if !isName name then fault (name ++ ": bad variable name") 2
        modifyShell fun shell =>
          match shell.hidden with
          | first :: rest =>
            if first.any (·.1 = name) then shell
            else { shell with hidden := ((name, shell.bindings.lookup name) :: first) :: rest }
          | [] => shell
        if let some value := value? then setVariable name value
    pure 0

/-- Drops parameters. -/
def shiftParameters : Builtin m := fun args => do
  let count ← match args with
    | text :: _ => numberOf text
    | [] => pure 1
  if count > (← shell).parameters.length then fault "can't shift that many" 2
  modifyShell fun shell =>
    { shell with parameters := shell.parameters.drop count, scanned := (1, 0) }
  pure 0

/-- Sets options and parameters, or lists them or the variables. -/
def setOptions : Builtin m := fun args => do
  let current ← shell
  if args = [] then
    say (listing "" (current.bindings.filter fun (_, held) => held.value.isSome))
  else
    match OptionReading.ofArguments false current.options args with
    | .error problem => fault problem 2
    | .ok reading => do
      modifyShell ({ · with options := reading.options })
      let lists := reading.lists.map fun on =>
        (if on then Options.listing else Options.commands) reading.options
      let status ← say (String.join lists)
      if reading.isCut || reading.rest ≠ [] then
        modifyShell ({ · with parameters := reading.rest, scanned := (1, 0) })
      pure status

/-! Reading a line -/

/-- A line that was read: its letters, the last first, how many characters were taken, and whether
it ended. -/
structure Line where
  letters : List Letter := []
  taken : Nat := 0
  ended : Bool := false

/-- Takes a line. Unless all characters stand for themselves, a backslash takes the meaning from the
next one, and joins lines. -/
def takeLine (raw : Bool) (line : Line) : List Char → Line
  | [] => line
  | '\n' :: _ => { line with taken := line.taken + 1, ended := true }
  | c :: rest =>
    let line := { line with taken := line.taken + 1 }
    let add (line : Line) (c : Char) (quoted : Bool) : Line :=
      if c = '\x00' then line else { line with letters := (c, quoted) :: line.letters }
    if c = '\\' ∧ !raw then
      match rest with
      | [] => line
      | '\n' :: rest => takeLine raw { line with taken := line.taken + 1 } rest
      | d :: rest => takeLine raw (add { line with taken := line.taken + 1 } d true) rest
    else takeLine raw (add line c false) rest

/-- Reads a line of the input into variables. -/
def readLine : Builtin m := fun args =>
  withLetters ['r'] ['p'] args fun given names => do
    if names = [] then fault "arg count" 2
    let line ← match ← placeOf? 0 with
      | none => pure {}
      | some place => do
        let text := (← restAt place).toOption.getD ""
        let line := takeLine (given.any (·.1 = 'r')) {} text.toList
        skipAt place line.taken
        pure line
    let texts := splitLine (← shell).separators names.length line.letters.reverse
    (names.zip texts).forM fun (name, text) => assignVariable name text
    pure (if line.ended then 0 else 1)

/-! Reading options -/

/-- What became of looking for the next option. -/
structure Scan where
  letter : Char
  argument : Option Octets
  /-- The argument that is looked at next. -/
  index : Nat
  /-- How many characters of the argument before were used. -/
  offset : Nat
  complaint : Option Octets := none
  isOver : Bool := false

/-- Looks for the next option among arguments. A colon at the front of the list of options keeps
complaints back. -/
def scan (known : List Char) (args : List Octets) (index offset : Nat) : Scan :=
  let before := ((args[index - 2]?).getD "").toList
  let (letters, index, isOver) : List Char × Nat × Bool :=
    if index > 1 ∧ offset > 0 ∧ offset < before.length then (before.drop offset, index, false)
    else match (args[index - 1]?).map String.toList with
      | some ['-', '-'] => ([], index + 1, true)
      | some ('-' :: c :: letters) => (c :: letters, index + 1, false)
      | _ => ([], index, true)
  let offset (rest : List Char) : Nat :=
    if rest = [] then 0 else ((args[index - 2]?).getD "").length - rest.length
  match letters with
  | [] => { letter := '?', argument := none, index, offset := 0, isOver }
  | c :: rest =>
    let quiet := known.head? = some ':'
    let found := known.dropWhile (· ≠ c)
    if found = [] ∨ c = ':' then
      if quiet then
        { letter := '?', argument := some (String.singleton c), index, offset := offset rest }
      else
        { letter := '?', argument := none, index, offset := offset rest
          complaint := some ("Illegal option -" ++ String.singleton c) }
    else if found.drop 1 |>.head? |> (· ≠ some ':') then
      { letter := c, argument := some "", index, offset := offset rest }
    else if rest ≠ [] then
      { letter := c, argument := some (String.ofList rest), index, offset := 0 }
    else
      match args[index - 1]? with
      | some value => { letter := c, argument := some value, index := index + 1, offset := 0 }
      | none =>
        if quiet then { letter := ':', argument := some (String.singleton c), index, offset := 0 }
        else
          { letter := '?', argument := none, index, offset := 0
            complaint := some ("No arg for -" ++ String.singleton c ++ " option") }

/-- Reads the next option among the parameters, or among the arguments behind its name. -/
def readOption : Builtin m := fun args => do
  match args with
  | known :: name :: args => do
    let current ← shell
    let args := if args = [] then current.parameters else args
    let index := (((current.value? "OPTIND").bind String.toNat?).filter (· > 0)).getD 1
    let offset := if current.scanned.1 = index then current.scanned.2 else 0
    let (index, offset) := if index > args.length + 1 then (1, 0) else (index, offset)
    let found := scan known.toList args index offset
    if let some complaint := found.complaint then grumble complaint
    match found.isOver, found.argument with
    | true, _ => pure ()
    | false, some value => setVariable "OPTARG" value
    | false, none => modifyShell (·.drop "OPTARG")
    setVariable "OPTIND" (toString found.index)
    modifyShell ({ · with scanned := (found.index, found.offset) })
    assignVariable name (String.singleton found.letter)
    pure (if found.isOver then 1 else 0)
  | _ => fault "Usage: getopts optstring var [arg...]" 2

end HybridTx.Script.Builtin
