import HybridTx.Program.Basic

/-! Programs that copy their input, or a part of it. -/

namespace HybridTx.Program

variable {m : Type → Type} [Monad m]

/-! Whole files -/

/-- A number of a line, flush right in six columns. -/
def lineNumber (number : Nat) : Octets := padLeft 6 (toString number) ++ "\t"

/-- A character as shown when characters without a look of their own are to be seen. -/
def showCharacter (c : Char) : Octets :=
  let n := c.toNat
  let low (n : Nat) : Octets :=
    if n < 32 then String.ofList ['^', Char.ofNat (n + 64)]
    else if n = 127 then "^?"
    else String.singleton (Char.ofNat n)
  if n < 128 then low n else "M-" ++ low (n - 128)

/-- What a copy does to lines. -/
structure CopyStyle where
  numberAll : Bool
  numberFilled : Bool
  squeeze : Bool
  showEnds : Bool
  showTabs : Bool
  showOthers : Bool

/-- A line as it is copied. -/
def CopyStyle.line (style : CopyStyle) (line : Octets) : Octets :=
  let ended := line.endsWith "\n"
  let body := String.join ((chomp line).toList.map fun c =>
    if c = '\t' then if style.showTabs then "^I" else "\t"
    else if style.showOthers then showCharacter c
    else String.singleton c)
  body ++ if ended then (if style.showEnds then "$\n" else "\n") else ""

/-- The lines as they are copied, behind `number` numbered ones and `blanks` empty ones. A line
whose break is missing is gone on with by the next file. -/
def CopyStyle.lines (style : CopyStyle) : (number blanks : Nat) → List Octets → List Octets
  | _, _, [] => []
  | number, blanks, line :: rest =>
    let empty := line = "\n"
    if style.squeeze ∧ empty ∧ blanks > 0 then style.lines number (blanks + 1) rest
    else
      let numbered := style.numberAll && !style.numberFilled || style.numberFilled && !empty
      let shown := style.line line
      let shown := if numbered then lineNumber (number + 1) ++ shown else shown
      shown :: style.lines (if numbered then number + 1 else number)
        (if empty then blanks + 1 else 0) rest

/-- Copies files to the output, one after another. -/
def cat : Routine m := fun args =>
  let table : OptionTable :=
    { flags := "AbeEnstTuv".toList
      long := [("show-all", 'A'), ("number-nonblank", 'b'), ("show-ends", 'E'), ("number", 'n'),
        ("squeeze-blank", 's'), ("show-tabs", 'T'), ("show-nonprinting", 'v')] }
  withOptions table 1 args fun given => do
    let has (letters : String) := letters.toList.any given.has
    let style : CopyStyle :=
      { numberAll := has "n", numberFilled := has "b", squeeze := has "s", showEnds := has "AeE"
        showTabs := has "AtT", showOthers := has "Aetv" }
    if has "AbeEnstTv" then
      let (text, status) ← allOperands given.operands
      put (String.join (style.lines 0 0 (linesOf text)))
      pure status
    else eachOperand given.operands fun _ text => put text

/-- Copies files with their lines in reverse order. -/
def tac : Routine m := fun args => do
  let paths := if args = [] then ["-"] else args
  let statuses ← paths.mapM fun path => do
    match ← readOperand path with
    | .ok text => do
      put (String.join (linesOf text).reverse)
      pure 0
    | .error .isDirectory => refuse (quotePath path ++ ": read error: Is a directory") 1
    | .error e =>
      refuse ("failed to open " ++ quote path ++ " for reading: " ++ e.reason) 1
  pure (statuses.foldl max 0)

/-- Copies lines with their characters in reverse order. -/
def rev : Routine m := fun args => do
  let texts ← (if args = [] then ["-"] else args).mapM fun path => do
    match ← readOperand path with
    | .ok text => pure (some text)
    | .error e => do
      complain ("cannot open " ++ path ++ ": " ++ e.reason)
      pure none
  put (String.join ((texts.filterMap id).flatMap linesOf |>.map fun line =>
    let body := chomp line
    String.ofList body.toList.reverse ++ if line.endsWith "\n" then "\n" else ""))
  pure (if texts.all Option.isSome then 0 else 1)

/-- Copies the input to the output and to files. -/
def tee : Routine m := fun args =>
  let table : OptionTable := { flags := ['a', 'i', 'p'], long := [("append", 'a')] }
  withOptions table 1 args fun given => do
    let text ← takeInput
    put text
    let statuses ← given.operands.mapM fun path => do
      let before ← if given.has 'a' then readFile path else pure (.ok "")
      match ← writeFile path ((before.toOption.getD "") ++ text) with
      | .ok () => pure 0
      | .error e => do
        complainOf path e
        pure 1
    pure (statuses.foldl max 0)

/-! Starts and ends of files -/

/-- How much of a file is wanted: so many units, all but so many, or all from a unit on. -/
inductive Extent
  | some (count : Nat)
  | allBut (count : Nat)
  | from (count : Nat)

/-- The start of a list. -/
def Extent.ofStart {α : Type} : Extent → List α → List α
  | some count, list => list.take count
  | allBut count, list => list.take (list.length - count)
  | .from count, list => list.take count

/-- The end of a list. -/
def Extent.ofEnd {α : Type} : Extent → List α → List α
  | some count, list => list.drop (list.length - count)
  | allBut count, list => list.drop (list.length - count)
  | .from count, list => list.drop (count - 1)

/-- Reads how much is wanted. -/
def extent? (text : Octets) : Option Extent :=
  match text.toList with
  | '-' :: digits => (count? (String.ofList digits)).map .allBut
  | '+' :: digits => (count? (String.ofList digits)).map .from
  | _ => (count? text).map .some

/-- An argument such as `-5` or `-5c`, in the form of an option. -/
def expandCount (args : List Octets) : List Octets :=
  match args with
  | arg :: rest =>
    match arg.toList with
    | '-' :: c :: digits =>
      let text := c :: digits
      let number := text.takeWhile Char.isDigit
      if number = [] then args
      else
        let number := String.ofList number
        match String.ofList (text.drop number.length) with
        | "" => ("-n" ++ number) :: rest
        | "c" => ("-c" ++ number) :: rest
        | "n" => ("-n" ++ number) :: rest
        | "q" => "-q" :: ("-n" ++ number) :: rest
        | _ => args
    | _ => args
  | [] => []

/-- The parts of a text that are counted: characters, or lines. -/
def unitsOf (byCharacter zeroEnded : Bool) (text : Octets) : List Octets :=
  if byCharacter then text.toList.map String.singleton
  else if zeroEnded then
    (linesOf (text.map fun c => if c = '\x00' then '\n' else if c = '\n' then '\x00' else c)).map
      fun line => line.map fun c => if c = '\x00' then '\n' else if c = '\n' then '\x00' else c
  else linesOf text

/-- Copies a part of each file, with its name above it if there are several. -/
def copyParts (part : List Octets → List Octets) (given : Given) (byCharacter : Bool) :
    Act m Nat := do
  let paths := if given.operands = [] then ["-"] else given.operands
  let titled := match given.last? ['q', 'v'] with
    | some 'v' => true
    | some _ => false
    | none => paths.length > 1
  let show' (first : Bool) (path : Octets) : Act m (Bool × Nat) := do
    let title := if path = "-" then "standard input" else path
    let head := if titled then (if first then "" else "\n") ++ "==> " ++ title ++ " <==\n" else ""
    match ← readOperand path with
    | .ok text => do
      let shown := part (unitsOf byCharacter (given.has 'z') text)
      put (head ++ String.join shown)
      pure (false, 0)
    | .error .isDirectory => do
      put head
      return (false, ← refuse ("error reading " ++ quote path ++ ": Is a directory") 1)
    | .error e =>
      return (first, ← refuse
        ("cannot open " ++ quote path ++ " for reading: " ++ e.reason) 1)
  let (_, status) ← paths.foldlM (fun (first, status) path => do
    let (first, s) ← show' first path
    pure (first, max status s)) (true, 0)
  pure status

/-- Copies a start or an end of files, as `cut` takes it from what is wanted. -/
def copyExtent (args : List Octets) (cut : Extent → List Octets → List Octets) : Act m Nat :=
  let table : OptionTable :=
    { flags := ['q', 'v', 'z', 'f', 'F'], valued := ['n', 'c']
      long := [("lines", 'n'), ("bytes", 'c'), ("quiet", 'q'), ("silent", 'q'), ("verbose", 'v'),
        ("zero-terminated", 'z')] }
  withOptions table 1 (expandCount args) fun given => do
    let unit := given.last? ['n', 'c']
    let byCharacter := unit = some 'c'
    let value := (unit.bind given.value?).getD "10"
    match extent? value with
    | some extent => copyParts (cut extent) given byCharacter
    | none =>
      refuse ("invalid number of " ++ (if byCharacter then "bytes" else "lines") ++ ": "
        ++ quote value) 1

/-- Copies the start of files. -/
def head : Routine m := fun args => copyExtent args Extent.ofStart

/-- Copies the end of files. -/
def tail : Routine m := fun args =>
  let args := match args with
    | arg :: rest =>
      if arg.startsWith "+" ∧ (extent? arg).isSome then ("-n" ++ arg) :: rest else args
    | [] => []
  copyExtent args Extent.ofEnd

end HybridTx.Program
