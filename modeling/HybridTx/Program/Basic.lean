import HybridTx.Files.Device
import HybridTx.Files.FileSystem

/-! The programs that scripts are made of: what a program is given, what it reads and writes, and
how it takes its options. -/

namespace HybridTx.Program

/-- What a program is given besides its arguments. -/
structure Site (m : Type → Type) where
  files : FileSystem m
  name : Octets
  directory : Octets
  bindings : List (String × Octets) := []

/-- What a program has not read yet, and what it wrote, the last first. Output and complaints may go
to one place, so their order counts. -/
structure Job where
  input : Octets := ""
  /-- The input is a file, and not what another program writes. -/
  inputIsFile : Bool := false
  written : List (Nat × Octets) := []

/-- Running a program. -/
abbrev Act (m : Type → Type) := ReaderT (Site m) (StateT Job m)

/-- A program takes arguments and leaves a status. -/
abbrev Routine (m : Type → Type) := List Octets → Act m Nat

variable {m : Type → Type} [Monad m]

/-- Writes to the output. -/
def put (text : Octets) : Act m Unit :=
  modifyThe Job fun job => { job with written := (1, text) :: job.written }

/-- Writes lines to the output. -/
def putLines (lines : List Octets) : Act m Unit :=
  put (String.join (lines.map (· ++ "\n")))

/-- Writes a line to the stream of errors. -/
def putError (text : Octets) : Act m Unit :=
  modifyThe Job fun job => { job with written := (2, text ++ "\n") :: job.written }

/-- Complains in the program's name. -/
def complain (text : Octets) : Act m Unit := do
  putError ((← readThe (Site m)).name ++ ": " ++ text)

/-- Complains and leaves a status. -/
def refuse (text : Octets) (status : Nat) : Act m Nat := do
  complain text
  pure status

/-- Complains about how the program was called. -/
def refuseUsage (text : Octets) (status : Nat) : Act m Nat := do
  complain text
  let name := (← readThe (Site m)).name
  putError ("Try '" ++ name ++ " --help' for more information.")
  pure status

/-- Takes all of the input. -/
def takeInput : Act m Octets := do
  let job ← getThe Job
  set { job with input := "" }
  pure job.input

/-- The path of a file as the file system knows it. -/
def located (path : Octets) : Act m Path := do
  let directory := (← readThe (Site m)).directory
  return (if path.startsWith "/" || path = "" then path else Path.join directory path).toText

/-- Asks the file system. -/
def onFiles {α : Type} (action : FileSystem m → m α) : Act m α := do
  let site ← readThe (Site m)
  liftM (action site.files)

/-- All of a file. The input and the empty and endless sources have paths of their own. -/
def readFile (path : Octets) : Act m (Except FileError Octets) := do
  match Device.ofPath? path with
  | some (.stream _) => return .ok (← takeInput)
  | some device => pure (.ok device.content)
  | none => do
    let place ← located path
    return (← onFiles (·.read place)).map Octets.ofBytes

/-- A file, or the input for a dash. -/
def readOperand (path : Octets) : Act m (Except FileError Octets) := do
  if path = "-" then return .ok (← takeInput) else readFile path

/-- Writes a file. Output and errors have paths of their own. -/
def writeFile (path text : Octets) : Act m (Except FileError Unit) := do
  match Device.ofPath? path with
  | some (.stream number) => do
    modifyThe Job fun job => { job with written := (number, text) :: job.written }
    pure (.ok ())
  | some _ => pure (.ok ())
  | none => do
    let place ← located path
    onFiles (·.write place text.toBytes)

/-- A text in the quotes of complaints. -/
def quote (text : Octets) : Octets := "'" ++ text ++ "'"

/-- A character that a path may hold without needing quotes. -/
def isSafe (c : Char) : Bool :=
  c.isAlphanum || c ∈ ['/', '.', '_', '-', '+', ',', ':', '@', '%', ']', '\x7b', '\x7d']

/-- A path in quotes if it needs them. -/
def quotePath (path : Octets) : Octets :=
  if path ≠ "" ∧ path.all isSafe then path
  else if path.contains '\'' then "\"" ++ path ++ "\"" else quote path

/-- Complains about a file. -/
def complainOf (path : Octets) (fault : FileError) : Act m Unit :=
  complain (quotePath path ++ ": " ++ fault.reason)

/-- Reads each operand in turn, complains about those that cannot be read, and tells whether all
could be. No operand stands for the input. -/
def eachOperand (paths : List Octets) (use : Octets → Octets → Act m Unit) : Act m Nat := do
  let paths := if paths = [] then ["-"] else paths
  let statuses ← paths.mapM fun path => do
    match ← readOperand path with
    | .ok text => do
      use path text
      pure 0
    | .error e => do
      complainOf path e
      pure 1
  pure (statuses.foldl max 0)

/-- All operands together, and whether all could be read. -/
def allOperands (paths : List Octets) : Act m (Octets × Nat) := do
  let paths := if paths = [] then ["-"] else paths
  let parts ← paths.mapM fun path => do
    match ← readOperand path with
    | .ok text => pure (text, 0)
    | .error e => do
      complainOf path e
      pure ("", 1)
  pure (String.join (parts.map (·.1)), (parts.map (·.2)).foldl max 0)

/-- The first file that could not be read. -/
def firstFault? (read : List (Octets × Except FileError Octets)) : Option (Octets × FileError) :=
  read.findSome? fun (path, result) => match result with
    | .error e => some (path, e)
    | .ok _ => none

/-- The lines of a text, each with its line break if it has one. -/
def linesOf (text : Octets) : List Octets :=
  go [] text.toList
where
  /-- Goes on, with the reversed start of the line. -/
  go (read : List Char) : List Char → List Octets
    | [] => if read = [] then [] else [String.ofList read.reverse]
    | '\n' :: rest => String.ofList ('\n' :: read).reverse :: go [] rest
    | c :: rest => go (c :: read) rest

/-- A text flush right in a number of columns. -/
def padLeft (width : Nat) (text : Octets) : Octets :=
  String.ofList (List.replicate (width - text.length) ' ') ++ text

/-- A line without its break. -/
def chomp (line : Octets) : Octets :=
  if line.endsWith "\n" then (line.dropEnd 1).toString else line

/-! Options -/

/-- The options that a program knows: letters, of which some take a value, and long names. -/
structure OptionTable where
  flags : List Char
  valued : List Char := []
  /-- Long names and the letters that they stand for. -/
  long : List (String × Char) := []
  /-- Options may stand behind operands. -/
  anywhere : Bool := true

/-- The options that were given, in order, each with its value, and the operands. -/
structure Given where
  options : List (Char × Octets) := []
  operands : List Octets := []

namespace Given

/-- The option was given. -/
def has (given : Given) (letter : Char) : Bool := given.options.any (·.1 = letter)

/-- The last value of an option. -/
def value? (given : Given) (letter : Char) : Option Octets :=
  (given.options.reverse.find? (·.1 = letter)).map (·.2)

/-- The last option among some. -/
def last? (given : Given) (letters : List Char) : Option Char :=
  (given.options.reverse.find? fun (letter, _) => letter ∈ letters).map (·.1)

end Given

/-- The options in one argument behind its dash; the last may take the next argument as its
value. -/
def readLetters (table : OptionTable) (given : List (Char × Octets)) :
    List Char → List Octets → Except Octets (List (Char × Octets) × List Octets)
  | [], rest => .ok (given, rest)
  | c :: letters, rest =>
    if c ∈ table.valued then
      match letters, rest with
      | [], value :: rest => .ok (given ++ [(c, value)], rest)
      | [], [] => .error ("option requires an argument -- " ++ quote (String.singleton c))
      | letters, rest => .ok (given ++ [(c, String.ofList letters)], rest)
    else if c ∈ table.flags then readLetters table (given ++ [(c, "")]) letters rest
    else .error ("invalid option -- " ++ quote (String.singleton c))

/-- Reads an option with a long name, which may be cut short as long as it is the only one. -/
def readLong (table : OptionTable) (given : List (Char × Octets)) (text : List Char)
    (rest : List Octets) : Except Octets (List (Char × Octets) × List Octets) :=
  let name := String.ofList (text.takeWhile (· ≠ '='))
  let value? := match text.drop name.length with
    | _ :: value => some (String.ofList value)
    | [] => none
  let found := match table.long.filter (·.1 = name) with
    | [] => table.long.filter fun (long, _) => long.startsWith name
    | exact => exact
  match found with
  | [(long, c)] =>
    if c ∈ table.valued then
      match value?, rest with
      | some value, rest => .ok (given ++ [(c, value)], rest)
      | none, value :: rest => .ok (given ++ [(c, value)], rest)
      | none, [] => .error ("option " ++ quote ("--" ++ long) ++ " requires an argument")
    else
      match value? with
      | some _ => .error ("option " ++ quote ("--" ++ long) ++ " doesn't allow an argument")
      | none => .ok (given ++ [(c, "")], rest)
  | [] => .error ("unrecognized option " ++ quote (String.ofList ('-' :: '-' :: text)))
  | _ => .error ("option " ++ quote ("--" ++ String.ofList text) ++ " is ambiguous")

/-- Reads arguments. -/
def readOptions (table : OptionTable) :
    (fuel : Nat) → Given → List Octets → Except Octets Given
  | 0, given, _ | _, given, [] => .ok given
  | fuel + 1, given, arg :: rest =>
    match arg.toList with
    | '-' :: '-' :: [] => .ok { given with operands := given.operands ++ rest }
    | '-' :: '-' :: text => do
      let (options, rest) ← readLong table given.options text rest
      readOptions table fuel { given with options } rest
    | '-' :: c :: letters => do
      let (options, rest) ← readLetters table given.options (c :: letters) rest
      readOptions table fuel { given with options } rest
    | _ =>
      if table.anywhere then
        readOptions table fuel { given with operands := given.operands ++ [arg] } rest
      else .ok { given with operands := given.operands ++ arg :: rest }

/-- Runs a program on its options, or complains about them and leaves a status. -/
def withOptions (table : OptionTable) (status : Nat) (args : List Octets)
    (run : Given → Act m Nat) : Act m Nat :=
  match readOptions table (args.length + 1) {} args with
  | .ok given => run given
  | .error problem => refuseUsage problem status

/-- A number in decimal digits. -/
def number? (text : Octets) : Option Nat :=
  if text ≠ "" ∧ text.all Char.isDigit then text.toNat? else none

/-- A count, perhaps with a letter for its unit. -/
def count? (text : Octets) : Option Nat :=
  let digits := text.toList.takeWhile Char.isDigit
  let unit? : Option Nat := match String.ofList (text.toList.drop digits.length) with
    | "" => some 1
    | "b" => some 512
    | "kB" | "KB" => some 1000
    | "k" | "K" | "KiB" => some 1024
    | "MB" => some 1000000
    | "M" | "MiB" => some 1048576
    | _ => none
  match unit?, number? (String.ofList digits) with
  | some unit, some n => some (n * unit)
  | _, _ => none

end HybridTx.Program
