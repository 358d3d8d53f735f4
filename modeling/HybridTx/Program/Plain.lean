import HybridTx.Program.Calculation
import HybridTx.Program.Condition
import HybridTx.Program.Format

/-! Small programs: those that write their arguments, test them, or cut paths. -/

namespace HybridTx.Program

variable {m : Type → Type} [Monad m]

/-- Writes what a format made. -/
def putPrinting (printing : Printing) : Act m Unit := do
  let name := (← readThe (Site m)).name
  let written := printing.written.map fun (stream, text) =>
    if stream = 2 then (stream, name ++ ": " ++ text ++ "\n") else (stream, text)
  modifyThe Job fun job => { job with written := written ++ job.written }

/-- Replaces the escapes of a program that writes its arguments. -/
def unescapeWords : (fuel : Nat) → List Char → Octets × Bool
  | 0, _ | _, [] => ("", true)
  | fuel + 1, '\\' :: c :: rest =>
    let goOn (text : Octets) (rest : List Char) : Octets × Bool :=
      let (more, all) := unescapeWords fuel rest
      (text ++ more, all)
    match c, escapeLetter? c with
    | _, some d => goOn (String.singleton d) rest
    | 'c', _ => ("", false)
    | '0', _ =>
      let (value, rest) := takeOctal 3 rest
      goOn (String.singleton value) rest
    | 'x', _ =>
      let (value, behind) := takeHex 2 rest
      if behind.length = rest.length then goOn "\\x" rest
      else goOn (String.singleton (Char.ofNat value)) behind
    | c, _ =>
      if isOctalDigit c then
        let (value, rest) := takeOctal 3 (c :: rest)
        goOn (String.singleton value) rest
      else goOn (String.ofList ['\\', c]) rest
  | fuel + 1, c :: rest =>
    let (more, all) := unescapeWords fuel rest
    (String.singleton c ++ more, all)

/-- Writes its arguments with blanks between them. Escapes count only if that is asked for. -/
def echo : Routine m := fun args => do
  let isOption (arg : Octets) : Bool := match arg.toList with
    | '-' :: c :: rest => (c :: rest).all fun c => c ∈ ['n', 'e', 'E']
    | _ => false
  let options := args.takeWhile isOption
  let letters := (options.map fun arg => arg.toList.drop 1).flatten
  let text := " ".intercalate (args.drop options.length)
  let escapes := (letters.filter (· ≠ 'n')).getLast? = some 'e'
  let (text, all) := if escapes then unescapeWords (text.length + 1) text.toList else (text, true)
  put (if all ∧ 'n' ∉ letters then text ++ "\n" else text)
  pure 0

/-- Writes its arguments in a format. -/
def printf : Routine m := fun args => do
  match (match args with
    | "--" :: rest => rest
    | args => args) with
  | [] => refuseUsage "missing operand" 1
  | format :: args => do
    let printing := Format.print ⟨.program, format.toList⟩ args
    putPrinting printing
    match printing.args with
    | extra :: _ =>
      if !printing.stopped then
        complain ("warning: ignoring excess arguments, starting with " ++ quote extra)
    | [] => pure ()
    pure printing.status

/-- Tests a condition. -/
def test : Routine m := fun args => do
  let site ← readThe (Site m)
  let look (path : Octets) : m Condition.Finding :=
    Condition.sortAt site.files site.directory path
  match ← (liftM (Condition.ofProgram look args) : Act m _) with
  | .ok true => pure 0
  | .ok false => pure 1
  | .error problem => refuse problem 2

/-- Tests a condition in brackets. -/
def bracket : Routine m := fun args => do
  if args.getLast? = some "]" then test args.dropLast else refuse "missing ']'" 2

/-- Does nothing for a while. -/
def sleep : Routine m := fun args => do
  let isInterval (text : Octets) : Bool :=
    match Real.read? text.toList with
    | some (value, rest) => !value.negative && rest ∈ [[], ['s'], ['m'], ['h'], ['d']]
    | none => false
  match args with
  | [] => refuseUsage "missing operand" 1
  | args => match args.find? fun arg => !isInterval arg with
    | some bad => refuseUsage ("invalid time interval " ++ quote bad) 1
    | none => pure 0

/-- How many lines are written where there is no end. -/
def endlessLines : Nat := 32768

/-- Writes its arguments again and again. -/
def yes : Routine m := fun args => do
  let line := if args = [] then "y" else " ".intercalate args
  putLines (List.replicate endlessLines line)
  pure 0

/-- The last name of a path, without an ending that is not all of it. -/
def baseName (path ending : Octets) : Octets :=
  let trimmed := path.toList.reverse.dropWhile (· = '/')
  if trimmed = [] then (if path = "" then "" else "/")
  else
    let name := (trimmed.takeWhile (· ≠ '/')).reverse
    let suffix := ending.toList
    if suffix ≠ name ∧ suffix.isSuffixOf name then
      String.ofList (name.take (name.length - suffix.length))
    else String.ofList name

/-- The path without its last name. -/
def dirName (path : Octets) : Octets :=
  let trimmed := path.toList.reverse.dropWhile (· = '/')
  if trimmed = [] then (if path = "" then "." else "/")
  else
    match trimmed.dropWhile (· ≠ '/') with
    | [] => "."
    | before =>
      match before.dropWhile (· = '/') with
      | [] => "/"
      | before => String.ofList before.reverse

/-- Writes the last names of paths. -/
def basename : Routine m := fun args =>
  let table : OptionTable :=
    { flags := ['a', 'z'], valued := ['s'], anywhere := false
      long := [("multiple", 'a'), ("suffix", 's'), ("zero", 'z')] }
  withOptions table 1 args fun given => do
    let ending := if given.has 'z' then "\x00" else "\n"
    let several := given.has 'a' || given.has 's'
    match given.operands with
    | [] => refuseUsage "missing operand" 1
    | path :: rest => do
      if several then
        let suffix := (given.value? 's').getD ""
        put (String.join ((path :: rest).map fun path => baseName path suffix ++ ending))
        pure 0
      else match rest with
        | _ :: extra :: _ => refuseUsage ("extra operand " ++ quote extra) 1
        | rest => do
          put (baseName path (rest.headD "") ++ ending)
          pure 0

/-- Writes paths without their last names. -/
def dirname : Routine m := fun args =>
  withOptions { flags := ['z'], long := [("zero", 'z')] } 1 args fun given => do
    if given.operands = [] then refuseUsage "missing operand" 1
    else do
      let ending := if given.has 'z' then "\x00" else "\n"
      put (String.join (given.operands.map fun path => dirName path ++ ending))
      pure 0

/-- Writes the directory. -/
def pwd : Routine m := fun _ => do
  putLines [(← readThe (Site m)).directory]
  pure 0

/-- Drops the names in a path that lead nowhere. -/
def tidy (path : Octets) : Octets :=
  let names := (path.splitOn "/").foldl (fun names name =>
    if name = "" ∨ name = "." then names
    else if name = ".." then names.drop 1 else name :: names) ([] : List Octets)
  "/" ++ "/".intercalate names.reverse

/-- Writes whole paths. All names but the last must be there, or all of them, or none. -/
def realpath : Routine m := fun args =>
  let table : OptionTable :=
    { flags := ['e', 'm', 's', 'q', 'f', 'n', 'L', 'P', 'z'], valued := [] }
  withOptions table 1 args fun given => do
    let site ← readThe (Site m)
    if given.operands = [] then return ← refuseUsage "missing operand" 1
    let statuses ← given.operands.mapM fun path => do
      let whole := tidy (if path.startsWith "/" then path else Path.join site.directory path)
      let parent := dirName whole
      let there ← onFiles (·.isPresent whole.toText)
      let parentThere ← onFiles (·.isDir parent.toText)
      if path = "" ∨ (!given.has 'm' ∧ (!parentThere ∨ (given.has 'e' ∧ !there))) then
        if site.name = "readlink" then pure 1
        else do
          complainOf path .notFound
          pure 1
      else do
        putLines [whole]
        pure 0
    pure (statuses.foldl max 0)

/-- Nothing here is a link, so there is nothing to write unless whole paths are asked for. -/
def readlink : Routine m := fun args => do
  if args.any fun arg => arg ∈ ["-f", "-e", "-m"] then realpath args
  else if args.filter (fun arg => !arg.startsWith "-") = [] then refuseUsage "missing operand" 1
  else pure 1

/-- Writes variables: all, or those that are named. -/
def printenv : Routine m := fun args => do
  let bindings := (← readThe (Site m)).bindings
  if args = [] then
    putLines (bindings.map fun (name, value) => name ++ "=" ++ value)
    pure 0
  else do
    let found := args.map fun name => bindings.lookup name
    putLines (found.filterMap id)
    pure (if found.all Option.isSome then 0 else 1)

/-- Writes the name of the user. -/
def whoami : Routine m := fun args =>
  match args with
  | [] => do
    putLines ["root"]
    pure 0
  | extra :: _ => refuseUsage ("extra operand " ++ quote extra) 1

/-- Writes numbers and names of the user. -/
def identity : Routine m := fun args => do
  let letters := (args.map fun arg => arg.toList.drop 1).flatten
  if 'n' ∈ letters then putLines ["root"]
  else if letters = [] then putLines ["uid=0(root) gid=0(root) groups=0(root)"]
  else putLines ["0"]
  pure 0

/-- Writes the name of the system. -/
def uname : Routine m := fun args =>
  let flags := ['a', 's', 'n', 'r', 'v', 'm', 'p', 'i', 'o']
  withOptions { flags } 1 args fun given => do
    let parts := [('s', "Linux"), ('m', "x86_64"), ('o', "GNU/Linux")].filter fun (c, _) =>
      given.has c || given.has 'a'
    putLines [if parts = [] then "Linux" else " ".intercalate (parts.map (·.2))]
    pure 0

end HybridTx.Program
