import HybridTx.Program.Basic
import HybridTx.Program.Edit.Instruction

/-! Editing a stream of lines. -/

namespace HybridTx.Program.Edit

/-- What does not change while lines are edited. -/
structure Settings where
  instructions : Array Instruction
  /-- Lines are not written unless that is asked for. -/
  quiet : Bool := false
  /-- What ends a line. -/
  ending : Char := '\n'
  /-- What the files hold from which lines may be taken. -/
  files : List (Octets × Octets) := []
  /-- The file that is edited. -/
  path : Octets := "-"

/-- The lines so far. -/
structure Editor where
  /-- The lines to come, each with its end if it has one. -/
  rest : List Octets
  /-- The number of the line. -/
  number : Nat := 0
  line : Octets := ""
  /-- The line has an end. -/
  ended : Bool := true
  kept : Octets := ""
  /-- What is to be written behind the line. -/
  behind : List Octets := []
  /-- What was written, the last first. -/
  output : List Octets := []
  /-- The last line that was written has no end yet. -/
  unended : Bool := false
  /-- What was written to files, the last first. -/
  written : List (Octets × Octets) := []
  /-- The commands whose first address was met, and the number of the last line if it is known. -/
  active : List (Nat × Option Nat) := []
  /-- The commands that are done with their lines for good. -/
  spent : List Nat := []
  /-- Something was replaced since the last line or jump. -/
  replaced : Bool := false
  latest : Option (Regex × Bool) := none
  status : Nat := 0
  problem : Option Octets := none

/-- What comes after a command. -/
inductive Next
  | command (place : Nat)
  /-- The line is done; it is written unless that was turned off. -/
  | finish
  /-- The line is done and not written. -/
  | drop
  /-- The commands are run again on what is left of the line. -/
  | again
  /-- Everything is done. -/
  | quit

abbrev Step := StateM Editor

/-- Writes a text. A line that has no end yet is ended. -/
def emit (settings : Settings) (text : Octets) (ended : Bool) : Step Unit :=
  modify fun editor =>
    let start := if editor.unended then String.singleton settings.ending else ""
    { editor with output := (start ++ text) :: editor.output, unended := !ended }

/-- Writes a line. -/
def emitLine (settings : Settings) (line : Octets) : Step Unit := do
  let editor ← get
  emit settings (if editor.ended then line.push settings.ending else line) editor.ended

/-- Writes what was to be written behind the line. -/
def flush (settings : Settings) : Step Unit := do
  let editor ← get
  set { editor with behind := [] }
  editor.behind.reverse.forM fun text => emit settings text true

/-- Takes the next line, behind the one that is held if they are to be joined. Tells whether there
is one. -/
def nextLine (settings : Settings) (joined : Bool) : Step Bool := do
  flush settings
  let editor ← get
  match editor.rest with
  | [] => pure false
  | next :: rest =>
    let ended := next.endsWith (String.singleton settings.ending)
    let body := if ended then (next.dropEnd 1).toString else next
    let line := if joined then editor.line ++ "\n" ++ body else body
    set { editor with rest, number := editor.number + 1, line, ended }
    pure true

/-- Looks for an expression in a text, or for that which was used last. -/
def find (regex : Option Regex) (foldCase : Bool) : Step (Option (Regex × Bool)) := do
  let editor ← get
  match regex with
  | some regex =>
    set { editor with latest := some (regex, foldCase) }
    pure (some (regex, foldCase))
  | none =>
    if editor.latest.isNone then
      set { editor with problem := some "no previous regular expression" }
    pure editor.latest

/-- The line meets an address by itself. -/
def meets (address : Address) : Step Bool := do
  let editor ← get
  match address with
  | .line number => pure (editor.number = number)
  | .last => pure editor.rest.isEmpty
  | .step first step =>
    pure (if step = 0 then editor.number = first
      else editor.number ≥ first ∧ (editor.number - first) % step = 0)
  | .fitting regex foldCase => do
    match ← find regex foldCase with
    | none => pure false
    | some (regex, foldCase) =>
      pure (regex.search? { text := editor.line.toList.toArray, foldCase } 0).isSome
  | .behind _ | .multiple _ => pure false

/-- The number of the last line up to which a second address goes, if that is known at the first. -/
def lastNumber? (number : Nat) : Address → Option Nat
  | .line last => some last
  | .behind count => some (number + count)
  | .multiple factor =>
    some (if factor = 0 then number else number + factor - number % factor)
  | _ => none

/-- The line is one of those that a command is for. -/
def applies (place : Nat) (instruction : Instruction) : Step Bool := do
  let holds ← match instruction.first, instruction.second with
    | none, _ => pure true
    | some first, none => meets first
    | some first, some second => do
      let editor ← get
      let start : Option (Option Nat) := editor.active.lookup place
      let start := match start, first with
        | none, .line 0 => if place ∈ editor.spent then none else some none
        | start, _ => start
      let close : Step Unit := modify fun editor =>
        { editor with
          active := editor.active.filter (·.1 ≠ place)
          spent := place :: editor.spent.filter (· ≠ place) }
      match start with
      | some (some last) =>
        if editor.number ≥ last then close
        pure (editor.number ≤ last)
      | some none => do
        if ← meets second then close
        pure true
      | none =>
        if ← meets first then
          match lastNumber? editor.number second with
          | some last =>
            if last > editor.number then
              modify fun editor => { editor with active := (place, some last) :: editor.active }
          | none => modify fun editor => { editor with active := (place, none) :: editor.active }
          pure true
        else pure false
  pure (holds != instruction.negated)

/-! Replacing -/

/-- The parts of a replacement as they are written. `whole` changes the case of all that follows and
`next` that of the next character. -/
def writeReplacement (text : Array Char) (groups : List (Nat × (Nat × Nat))) :
    (whole next : Option Char) → List Replacement → List Char
  | _, _, [] => []
  | whole, next, .letterCase kind :: rest =>
    if kind = 'u' ∨ kind = 'l' then writeReplacement text groups whole (some kind) rest
    else if kind = 'E' then writeReplacement text groups none none rest
    else writeReplacement text groups (some kind) next rest
  | whole, next, part :: rest =>
    let chars := match part with
      | .text text => text.toList
      | .group number => match groups.lookup number with
        | some (start, stop) => (text.extract start stop).toList
        | none => []
      | .letterCase _ => []
    let changed := chars.map fun c => match whole with
      | some 'U' => c.toUpper
      | some 'L' => c.toLower
      | _ => c
    match changed, next with
    | c :: more, some kind =>
      (if kind = 'u' then c.toUpper else c.toLower) :: more
        ++ writeReplacement text groups whole none rest
    | changed, next => changed ++ writeReplacement text groups whole next rest

/-- Replaces matches from a position on. `count` matches were found before, and `bound` is the end
of the last. Tells whether any was replaced. -/
def replaceFrom (subject : Regex.Subject) (regex : Regex) (s : Substitution) :
    (fuel : Nat) → (position count : Nat) → (bound : Option Nat) → List Char × Bool
  | 0, position, _, _ => ((subject.text.extract position subject.text.size).toList, false)
  | fuel + 1, position, count, bound =>
    let rest (from' : Nat) : List Char := (subject.text.extract from' subject.text.size).toList
    match regex.search? subject position with
    | none => (rest position, false)
    | some (start, place) =>
      let stop := place.position
      let before := (subject.text.extract position start).toList
      let isEmpty := start == stop
      let goOn (shown : List Char) (count : Nat) (done : Bool) : List Char × Bool :=
        let step := if isEmpty then (subject.text.extract stop (stop + 1)).toList else []
        let position := if isEmpty then stop + 1 else stop
        if position > subject.text.size then (before ++ shown ++ step, done)
        else
          let (more, other) := replaceFrom subject regex s fuel position count (some stop)
          (before ++ shown ++ step ++ more, done || other)
      if isEmpty ∧ bound = some start then goOn [] count false
      else
        let count := count + 1
        let wanted := s.first.getD 1
        if count < wanted then goOn (subject.text.extract start stop).toList count false
        else
          let groups := (0, (start, stop)) :: place.groups
          let shown := writeReplacement subject.text groups none none s.replacement
          if s.all then goOn shown count true
          else (before ++ shown ++ rest stop, true)

/-- A line as characters that can all be seen, in rows of a width. -/
def showLine (width : Nat) (line : Octets) : Octets :=
  let cells := (line.toList.map cell)
  let (rows, row) := cells.foldl (fun ((rows, row) : List Octets × Octets) cell =>
    if width > 1 ∧ row.length + cell.length > width - 1 then (rows ++ [row ++ "\\\n"], cell)
    else (rows, row ++ cell)) ([], "")
  String.join rows ++ row ++ "$\n"
where
  /-- A character as it is shown. -/
  cell (c : Char) : Octets :=
    match c with
    | '\\' => "\\\\"
    | '\x07' => "\\a"
    | '\x08' => "\\b"
    | '\x0c' => "\\f"
    | '\n' => "\\n"
    | '\r' => "\\r"
    | '\t' => "\\t"
    | '\x0b' => "\\v"
    | c =>
      if 32 ≤ c.toNat ∧ c.toNat < 127 then String.singleton c
      else
        let digits := String.ofList (Nat.toDigits 8 c.toNat)
        "\\" ++ String.ofList (List.replicate (3 - digits.length) '0') ++ digits

/-! Running -/

/-- The place of a label, or the end of all commands. -/
def placeOf (settings : Settings) (label : Octets) : Nat :=
  if label = "" then settings.instructions.size
  else ((settings.instructions.toList.findIdx? fun instruction => match instruction.action with
    | .label name => name == label
    | _ => false).getD settings.instructions.size)

/-- The text up to the first line break, and what follows it if there is one. -/
def cutFirst (text : Octets) : Octets × Option Octets :=
  let first := (text.takeWhile (· ≠ '\n')).toString
  if first.length = text.length then (first, none)
  else (first, some (text.drop (first.length + 1)).toString)

/-- Does what a command without arguments does. -/
def doPlain (settings : Settings) (place : Nat) (name : Char) : Step Next := do
  let editor ← get
  let goOn : Next := .command (place + 1)
  match name with
  | 'd' => pure .drop
  | 'D' => match cutFirst editor.line with
    | (_, none) => pure .drop
    | (_, some rest) => do
      set { editor with line := rest }
      pure .again
  | 'p' => do
    emitLine settings editor.line
    pure goOn
  | 'P' => do
    emit settings ((cutFirst editor.line).1.push settings.ending) true
    pure goOn
  | 'n' =>
    if editor.rest = [] then pure .finish
    else do
      if !settings.quiet then emitLine settings editor.line
      let _ ← nextLine settings false
      pure goOn
  | 'N' =>
    if editor.rest = [] then pure .finish
    else do
      let _ ← nextLine settings true
      pure goOn
  | 'g' => do
    set { editor with line := editor.kept }
    pure goOn
  | 'G' => do
    set { editor with line := editor.line ++ "\n" ++ editor.kept }
    pure goOn
  | 'h' => do
    set { editor with kept := editor.line }
    pure goOn
  | 'H' => do
    set { editor with kept := editor.kept ++ "\n" ++ editor.line }
    pure goOn
  | 'x' => do
    set { editor with line := editor.kept, kept := editor.line }
    pure goOn
  | '=' => do
    emit settings (toString editor.number ++ "\n") true
    pure goOn
  | 'l' => do
    emit settings (showLine 70 editor.line) true
    pure goOn
  | 'z' => do
    set { editor with line := "" }
    pure goOn
  | _ => do
    emit settings (settings.path ++ "\n") true
    pure goOn

/-- Adds a line to a file. -/
def addTo (path line : Octets) : Step Unit :=
  modify fun editor => { editor with written := (path, line ++ "\n") :: editor.written }

/-- Replaces matches in the line. -/
def doSubstitution (settings : Settings) (s : Substitution) : Step Unit := do
  match ← find s.regex s.foldCase with
  | none => pure ()
  | some (regex, foldCase) => do
    let editor ← get
    let text := editor.line.toList.toArray
    let (chars, done) := replaceFrom { text, foldCase } regex s (text.size + 2) 0 0 none
    if done then
      let line := String.ofList chars
      set { editor with line, replaced := true }
      if s.shows then emitLine settings line
      if let some path := s.file then addTo path line

/-- Does what a command does. -/
def perform (settings : Settings) (place : Nat) (action : Action) : Step Next := do
  let editor ← get
  let goOn : Next := .command (place + 1)
  match action with
  | .opening _ | .closing | .label _ => pure goOn
  | .plain name => doPlain settings place name
  | .quit silent status => do
    set { editor with status }
    if !silent then
      if !settings.quiet then emitLine settings editor.line
      flush settings
    pure .quit
  | .text 'a' text => do
    set { editor with behind := text :: editor.behind }
    pure goOn
  | .text 'i' text => do
    emit settings text true
    pure goOn
  | .text _ text => do
    let inside := (editor.active.lookup place).isSome
    if !inside then emit settings text true
    pure .drop
  | .branch name label => do
    let taken := name = 'b' ∨ (name = 't' ∧ editor.replaced) ∨ (name = 'T' ∧ !editor.replaced)
    if name ≠ 'b' then set { editor with replaced := false }
    pure (if taken then .command (placeOf settings label) else goOn)
  | .file 'r' path => do
    let text := (settings.files.lookup path).getD ""
    if text ≠ "" then set { editor with behind := text :: editor.behind }
    pure goOn
  | .file _ path => do
    addTo path editor.line
    pure goOn
  | .substitute s => do
    doSubstitution settings s
    pure goOn
  | .translate pairs => do
    let chars := editor.line.toList.map fun c => (pairs.lookup c).getD c
    set { editor with line := String.ofList chars }
    pure goOn

/-- Runs commands from a place on until the line is done. -/
def runFrom (settings : Settings) : (fuel : Nat) → (place : Nat) → Step Next
  | 0, _ => pure .quit
  | fuel + 1, place => do
    match settings.instructions[place]? with
    | none => pure .finish
    | some instruction =>
      let applied ← applies place instruction
      if (← get).problem.isSome then pure .quit
      else if applied then
        match ← perform settings place instruction.action with
        | .command next => if (← get).problem.isSome then pure .quit else runFrom settings fuel next
        | next => pure next
      else
        match instruction.action with
        | .opening behind => runFrom settings fuel behind
        | _ => runFrom settings fuel (place + 1)

/-- How many commands may be run. -/
def commandLimit : Nat := 1000000

/-- Runs the commands on each line. -/
def runLines (settings : Settings) : (fuel : Nat) → (isAgain : Bool) → Step Unit
  | 0, _ => pure ()
  | fuel + 1, isAgain => do
    if ← (if isAgain then pure true else nextLine settings false) then
      modify ({ · with replaced := false })
      match ← runFrom settings commandLimit 0 with
      | .quit => pure ()
      | .again => do
        flush settings
        runLines settings fuel true
      | .drop => runLines settings fuel false
      | _ => do
        if !settings.quiet then emitLine settings (← get).line
        runLines settings fuel false

/-- Edits a text. -/
def edit (settings : Settings) (text : Octets) (kept : Octets) : Editor :=
  let lines := if settings.ending = '\n' then linesOf text
    else (linesOf (String.ofList (text.toList.map swap))).map fun line =>
      String.ofList (line.toList.map swap)
  let start : Editor := { rest := lines, kept }
  let run : Step Unit := do
    runLines settings (2 * text.length + 2) false
    flush settings
  (run.run start).2
where
  /-- Puts line breaks in place of the other ends of lines, and those in place of line breaks. -/
  swap (c : Char) : Char := if c = '\n' then '\x00' else if c = '\x00' then '\n' else c

/-! The program -/

variable {m : Type → Type} [Monad m]

/-- Writes what was written to files. -/
def writeFiles (instructions : Array Instruction) (written : List (Octets × Octets)) :
    Act m Unit := do
  let paths := instructions.toList.filterMap fun instruction => match instruction.action with
    | .file 'w' path => some path
    | .substitute s => s.file
    | _ => none
  paths.eraseDups.forM fun path => do
    let texts := (written.filter (·.1 = path)).reverse.map (·.2)
    let _ ← writeFile path (String.join texts)

/-- The texts of commands among options: those that are given, and those in files. -/
def gatherTexts (given : Given) : Act m (Except (Octets × FileError) (List Octets)) := do
  let texts ← given.options.filterMapM fun (c, value) => do
    match c with
    | 'e' => pure (some (.ok value))
    | 'f' => match ← readOperand value with
      | .ok text => pure (some (.ok (chomp text)))
      | .error e => pure (some (.error (value, e)))
    | _ => pure none
  pure (texts.mapM id)

/-- The text in which something is wrong, and the number of characters of it that were read. -/
def locate (read : Nat) : (number : Nat) → List Octets → Nat × Nat
  | number, [] | number, [_] => (number, read)
  | number, text :: rest =>
    if read ≤ text.length then (number, read) else locate (read - text.length - 1) (number + 1) rest

/-- How the program is called. -/
def usage : Octets :=
  "Usage: sed [OPTION]... \x7bscript-only-if-no-other-script\x7d [input-file]...\n"

/-- Edits streams of lines. -/
def sed : Routine m := fun args =>
  let table : OptionTable :=
    { flags := ['n', 'E', 'r', 's', 'u', 'z', 'i', 'p'], valued := ['e', 'f', 'l']
      long := [("quiet", 'n'), ("silent", 'n'), ("regexp-extended", 'E'), ("separate", 's'),
        ("unbuffered", 'u'), ("null-data", 'z'), ("in-place", 'i'), ("expression", 'e'),
        ("file", 'f'), ("line-length", 'l'), ("posix", 'p')] }
  let plain := args.map fun arg => if arg.startsWith "-i" then "-i" else arg
  let ending := (args.findSome? fun arg =>
    if arg.startsWith "-i" ∧ arg.length > 2 then some (arg.drop 2).toString else none).getD ""
  match readOptions table (args.length + 1) {} plain with
  | .error problem => do
    complain problem
    putError usage
    pure 1
  | .ok given => do
    match ← gatherTexts given with
    | .error (path, e) =>
      refuse ("couldn't open file " ++ path ++ ": " ++ e.reason) 4
    | .ok texts =>
      let (texts, paths) := match texts, given.operands with
        | [], text :: paths => ([text], paths)
        | texts, paths => (texts, paths)
      if texts = [] then
        putError usage
        return 1
      let text := "\n".intercalate texts
      match readInstructions (given.has 'E' || given.has 'r') text with
      | .error fault =>
        let (number, read) := locate fault.read 1 texts
        refuse ("-e expression #" ++ toString number ++ ", char " ++ toString read ++ ": "
          ++ fault.problem) 1
      | .ok instructions =>
        if let some label := missingLabel? instructions then
          return ← refuse ("can't find label for jump to \x60" ++ label ++ "'") 4
        run given ending instructions (given.has 'n' || text.startsWith "#n\n") paths
where
  /-- Edits each file, or all of them as one stream. A file that is edited in place is kept under
  its name with an ending, if there is one. -/
  run (given : Given) (ending : Octets) (instructions : Array Instruction) (quiet : Bool)
      (paths : List Octets) : Act m Nat := do
    let files ← instructions.toList.filterMapM fun instruction => match instruction.action with
      | .file 'r' path => do return some (path, ((← readFile path).toOption).getD "")
      | _ => pure none
    let settings : Settings :=
      { instructions, quiet, files, ending := if given.has 'z' then '\x00' else '\n' }
    let inPlace := given.has 'i'
    let results ← (if paths = [] then ["-"] else paths).mapM fun path => do
      match ← readOperand path with
      | .ok text => pure (some (path, text), 0)
      | .error .isDirectory => do
        complain (if inPlace then "couldn't edit " ++ path ++ ": not a regular file"
          else "read error on " ++ path ++ ": Is a directory")
        pure (none, 4)
      | .error e => do
        complain ("can't read " ++ path ++ ": " ++ e.reason)
        pure (none, 2)
    let read := results.filterMap (·.1)
    let status := (results.map (·.2)).foldl max 0
    let parts := if inPlace || given.has 's' then read
      else [("-", joinTexts (read.map (·.2)))]
    let editors := editEach settings parts ""
    editors.forM fun (path, editor) => do
      let text := String.join editor.output.reverse
      if inPlace then
        if ending ≠ "" then
          if let some before := read.lookup path then
            let _ ← writeFile (path ++ ending) before
        let _ ← writeFile path text
      else put text
      if let some problem := editor.problem then complain ("-e expression #1, char 0: " ++ problem)
    writeFiles instructions ((editors.reverse.map (·.2.written)).flatten)
    let left := (editors.map fun (_, editor) =>
      if editor.problem.isSome then 1 else editor.status).foldl max 0
    pure (max status left)
  /-- Edits texts in order. What was kept aside in one is there in the next. -/
  editEach (settings : Settings) : List (Octets × Octets) → (kept : Octets) →
      List (Octets × Editor)
    | [], _ => []
    | (path, text) :: rest, kept =>
      let editor := edit { settings with path } text kept
      (path, editor) :: editEach settings rest editor.kept
  /-- Texts one behind another, each but the last with an end. -/
  joinTexts : List Octets → Octets
    | [] => ""
    | [text] => text
    | text :: rest =>
      (if text = "" ∨ text.endsWith "\n" then text else text ++ "\n") ++ joinTexts rest

end HybridTx.Program.Edit
