import HybridTx.Script.Arithmetic
import HybridTx.Script.Fields
import HybridTx.Script.Options
import HybridTx.Script.Subshell

/-! What words stand for: parameters, sums and the output of commands filled in, fields cut, and
patterns replaced by the files that they fit. -/

namespace HybridTx.Script

/-- What a parameter holds: nothing, one text, or all parameters of the script. -/
inductive ParameterValue
  | absent
  | single (text : Octets)
  | all (texts : List Octets)

namespace Shell

/-- The characters that part fields. -/
def separators (shell : Shell) : List Char :=
  match shell.value? "IFS" with
  | some text => text.toList
  | none => [' ', '\t', '\n']

/-- What stands between parameters that are joined. -/
def joint (shell : Shell) : Octets :=
  match shell.separators with
  | c :: _ => String.singleton c
  | [] => ""

/-- What a parameter holds. -/
def parameter (shell : Shell) (name : String) : ParameterValue :=
  match name with
  | "@" | "*" => .all shell.parameters
  | "#" => .single (toString shell.parameters.length)
  | "?" => .single (toString shell.status)
  | "$" => .single (toString shell.process)
  | "!" => match shell.background with
    | some process => .single (toString process)
    | none => .absent
  | "-" => .single (String.ofList (Options.letters.reverse.filter (· ∈ shell.options)))
  | "0" => .single shell.name
  | name =>
    let value? := match name.toNat? with
      | some position =>
        if position = 0 then some shell.name else shell.parameters[position - 1]?
      | none => shell.value? name
    match value? with
    | some text => .single text
    | none => .absent

end Shell

variable {m : Type → Type} [Monad m] (runner : Runner m)

/-- Sets a variable that may be set, and exports it if all are to be exported. -/
def setVariable (name : String) (value : Octets) : Play m Unit := do
  let shell ← shell
  let before := (shell.bindings.lookup name).getD {}
  if before.readOnly then fault (name ++ ": is read only") 2
  let exported := before.exported || 'a' ∈ shell.options
  modifyShell (·.put name { before with value := some value, exported })

/-- Sets a variable as an assignment does; what has no name of a variable cannot be set. -/
def assignVariable (name : String) (value : Octets) : Play m Unit := do
  if isName name then setVariable name value
  else fault (name ++ ": bad variable name") 2

/-- The home directory in place of a leading tilde, up to a slash or one of the characters at which
a path ends. -/
def expandTilde (home : Option Octets) (ends : List Char) (text : List Char) (last : Bool) :
    Option (Octets × List Char) :=
  match text with
  | '~' :: rest =>
    let user := rest.takeWhile fun c => c ≠ '/' ∧ c ∉ ends
    let behind := rest.drop user.length
    if behind = [] ∧ !last then none
    else
      match String.ofList user, home with
      | "", some home => some (home, behind)
      | "root", _ => some ("/root", behind)
      | _, _ => none
  | _ => none

/-- The cells of a text in which a tilde may stand at the start and behind each colon. -/
def tildeCells (home : Option Octets) (last : Bool) : (fuel : Nat) → List Char → List Cell
  | 0, text => Cell.ofText (String.ofList text) false false
  | fuel + 1, text =>
    let (start, text) : List Cell × List Char := match expandTilde home [':'] text last with
      | some (home, behind) => (Cell.ofText home true false, behind)
      | none => ([], text)
    let part := text.takeWhile (· ≠ ':')
    let cells := start ++ Cell.ofText (String.ofList part) false false
    match text.drop part.length with
    | colon :: rest => cells ++ .letter (colon, false) false :: tildeCells home last fuel rest
    | [] => cells

/-- How a word is used: its fields are cut, or it stays whole, in an assignment, as a pattern or
path, or in a document. -/
inductive Purpose
  | fields
  | assignment
  | whole
  | document
deriving DecidableEq

/-- The cells of all parameters. -/
def parameterCells (shell : Shell) (purpose : Purpose) (star quoted : Bool)
    (texts : List Octets) : List Cell :=
  if purpose ≠ .fields ∨ (star ∧ quoted) then
    Cell.ofText (String.intercalate shell.joint texts) quoted !quoted
  else
    let parts := texts.map fun text =>
      if quoted then .hold :: Cell.ofText text true false else Cell.ofText text false true
    (parts.intersperse [.cut]).flatten

/-- The value as one text, if there is one. -/
def ParameterValue.joined (shell : Shell) : ParameterValue → Option Octets
  | .absent => none
  | .single text => some text
  | .all texts => some (String.intercalate shell.joint texts)

/-- What is said of an absent parameter. -/
def absentMessage (name : String) : Octets := name ++ ": parameter not set"

mutual

/-- The cells of pieces. Texts without quotes are cut if they stand in for a parameter. -/
def expandPieces (purpose : Purpose) (inside : Bool) :
    (depth : Nat) → (first : Bool) → List Piece → Play m (List Cell)
  | 0, _, _ | _, _, [] => pure []
  | depth + 1, first, piece :: rest => do
    let cells ← match piece with
      | .text characters true => pure (.hold :: Cell.ofText characters true false)
      | .text characters false => do
        let home := (← shell).value? "HOME"
        let last := rest.isEmpty
        let text := characters.toList
        pure (match purpose with
          | .assignment => tildeCells home last (text.length + 1) text
          | .fields | .whole =>
            match if first then expandTilde home [] text last else none with
            | some (home, behind) =>
              Cell.ofText home true false ++ Cell.ofText (String.ofList behind) false inside
            | none => Cell.ofText characters false inside
          | .document => Cell.ofText characters false false)
      | .parameter name use quoted => expandParameter purpose depth name use quoted
      | .output command quoted => do
        let text ← outputOf runner command
        pure (Cell.ofText text quoted !quoted)
      | .sum expression quoted => do
        let text := Cell.toText (← expandPieces .document false depth true expression)
        let current ← shell
        match Arithmetic.evaluate (fun name => (current.value? name).getD "") text with
        | .error problem => fault (problem.message text) 2
        | .ok (value, assigned) => do
          assigned.reverse.forM fun (name, value) => setVariable name value
          pure (Cell.ofText (toString value) quoted !quoted)
    return cells ++ (← expandPieces purpose inside depth false rest)

/-- The cells of a parameter and what is made of it. -/
def expandParameter (purpose : Purpose) :
    (depth : Nat) → (name : String) → Use → (quoted : Bool) → Play m (List Cell)
  | 0, _, _, _ => pure []
  | depth + 1, name, use, quoted => do
    let current ← shell
    let value := current.parameter name
    let cells (value : ParameterValue) : List Cell := match value with
      | .absent => []
      | .single text => Cell.ofText text quoted !quoted
      | .all texts => parameterCells current purpose (name = "*") quoted texts
    let known (value : ParameterValue) : Play m Unit := do
      if value matches .absent && 'u' ∈ current.options then fault (absentMessage name) 2
    match use with
    | .invalid => fault "Bad substitution" 2
    | .value => do
      known value
      pure (cells value)
    | .length => do
      known value
      let length := ((value.joined current).getD "").length
      pure (Cell.ofText (toString length) quoted !quoted)
    | .trim atEnd longest pattern => do
      known value
      let pattern ← expandPieces .whole false depth true pattern
      let pattern := Glob.ofLetters (Cell.letters pattern)
      let text := ((value.joined current).getD "").toList
      pure (Cell.ofText (String.ofList (Glob.trim pattern atEnd longest text)) quoted !quoted)
    | .alternative kind nullToo word => do
      let isThere := match value.joined current with
        | none => false
        | some text => !(nullToo && text = "")
      match kind with
      | .orElse =>
        if isThere then pure (cells value) else expandPieces purpose true depth true word
      | .ifSet =>
        if isThere then expandPieces purpose true depth true word else pure []
      | .orAssign =>
        if isThere then pure (cells value)
        else
          let text := Cell.toText (← expandPieces .whole true depth true word)
          assignVariable name text
          pure (Cell.ofText text quoted !quoted)
      | .orFail =>
        if isThere then pure (cells value)
        else if word.isEmpty then
          fault (absentMessage name ++ if nullToo then " or null" else "") 2
        else
          let text := Cell.toText (← expandPieces .whole true depth true word)
          fault (name ++ ": " ++ text) 2

end

/-- How deep words may be nested. -/
def wordDepth : Nat := 4096

/-- The cells of a word. -/
def expandCells (purpose : Purpose) (word : Word) : Play m (List Cell) :=
  expandPieces runner purpose false wordDepth true word

/-- The text of a word that is not cut. -/
def expandText (purpose : Purpose) (word : Word) : Play m Octets := do
  return Cell.toText (← expandCells runner purpose word)

/-- The pattern that a word is. -/
def expandPattern (word : Word) : Play m (List Glob) := do
  return Glob.ofLetters (Cell.letters (← expandCells runner .whole word))

/-- The names in a directory, in order. -/
def namesIn (directory : Octets) : Play m (List Octets) := do
  let path ← located (if directory = "" then "." else directory)
  match ← onFiles (·.entries path) with
  | .ok names => pure ((names.map Octets.ofText).mergeSort (· ≤ ·))
  | .error _ => pure []

/-- Something is at a path. -/
def isPresent (path : Octets) : Play m Bool := do
  if (Device.ofPath? path).isSome then pure true
  else
    let path ← located path
    onFiles (·.isPresent path)

/-- A directory is at a path. -/
def isDirectory (path : Octets) : Play m Bool := do
  let path ← located path
  onFiles (·.isDir path)

/-- The text of letters. -/
def spell (letters : List Letter) : Octets := String.ofList (letters.map Prod.fst)

/-- The paths below a start that a pattern fits. Hidden names fit only a pattern that begins with
their dot. -/
def fittingPaths : (fuel : Nat) → (start : Octets) → List Letter → Play m (List Octets)
  | 0, start, _ => pure [start]
  | fuel + 1, start, letters => do
    let slashes := letters.takeWhile (·.1 = '/')
    let name := (letters.drop slashes.length).takeWhile (·.1 ≠ '/')
    let rest := letters.drop (slashes.length + name.length)
    let start := start ++ spell slashes
    if name = [] then
      if ← isPresent start then pure [start] else pure []
    else if !name.any Glob.isWild then
      let path := start ++ spell (Glob.unescape name)
      if rest = [] then
        if ← isPresent path then pure [path] else pure []
      else fittingPaths fuel path rest
    else
      let pattern := Glob.ofLetters name
      let dotted := pattern.head? = some (.exactly '.')
      let found ← namesIn start
      let names := (if dotted then "." :: ".." :: found else found).filter fun n =>
        (dotted || !n.startsWith ".") && Glob.fits pattern n.toList
      if rest = [] then pure (names.map (start ++ ·))
      else
        let directories ← names.filterM fun n => isDirectory (start ++ n)
        let found ← directories.mapM fun n => fittingPaths fuel (start ++ n) rest
        pure found.flatten

/-- The field, or the paths that it fits if it is a pattern that fits any. -/
def expandField (letters : List Letter) : Play m (List Octets) := do
  if !letters.any Glob.isWild || (← hasOption 'f') then return [spell letters]
  match ← fittingPaths (letters.length + 1) "" letters with
  | [] => pure [spell letters]
  | paths => pure (paths.mergeSort (· ≤ ·))

/-- The fields of a word. -/
def expandWord (word : Word) : Play m (List Octets) := do
  let cells ← expandCells runner .fields word
  let fields := Fields.ofCells (← shell).separators cells
  return (← fields.mapM expandField).flatten

/-- The fields of words. -/
def expandWords (words : List Word) : Play m (List Octets) := do
  return (← words.mapM (expandWord runner)).flatten

end HybridTx.Script
