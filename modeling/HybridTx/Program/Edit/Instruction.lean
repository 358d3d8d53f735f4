import HybridTx.Program.Regex

/-! The commands by which a stream of lines is edited, and reading them from their text. -/

namespace HybridTx.Program.Edit

/-- Which lines a command is for. -/
inductive Address
  | line (number : Nat)
  | last
  | step (first step : Nat)
  | fitting (regex : Option Regex) (foldCase : Bool)
  | behind (count : Nat)
  | multiple (factor : Nat)

/-- A part of what goes in place of a match. -/
inductive Replacement
  | text (text : Octets)
  | group (number : Nat)
  | letterCase (kind : Char)

/-- What is replaced by what. -/
structure Substitution where
  /-- Without an expression, that which was used last counts. -/
  regex : Option Regex
  foldCase : Bool := false
  replacement : List Replacement
  /-- The first match that is replaced. -/
  first : Option Nat := none
  /-- All matches from the first on are replaced. -/
  all : Bool := false
  shows : Bool := false
  file : Option Octets := none

/-- What a command does. The commands in braces end at a given place in the list of all. -/
inductive Action
  | opening (behind : Nat)
  | closing
  | plain (name : Char)
  | quit (silent : Bool) (status : Nat)
  | text (name : Char) (text : Octets)
  | label (name : Octets)
  | branch (name : Char) (label : Octets)
  | file (name : Char) (path : Octets)
  | substitute (substitution : Substitution)
  | translate (pairs : List (Char × Char))

/-- A command, for lines from one address to another. -/
structure Instruction where
  first : Option Address := none
  second : Option Address := none
  negated : Bool := false
  action : Action

instance : Inhabited Instruction := ⟨{ action := .closing }⟩

/-! Reading -/

/-- The text of commands that is left, and how much was read. -/
structure Source where
  rest : List Char
  read : Nat := 0

/-- What is wrong with commands, and after how many characters that is found. -/
structure Fault where
  read : Nat
  problem : Octets

/-- Reading commands. -/
abbrev Reading := StateT Source (Except Fault)

/-- The commands are wrong at this place. -/
def fail {α : Type} (problem : Octets) : Reading α := do throw ⟨(← get).read, problem⟩

/-- The next character. -/
def peek : Reading (Option Char) := do return (← get).rest.head?

/-- Takes a character. -/
def take : Reading (Option Char) := do
  let source ← get
  match source.rest with
  | [] => pure none
  | c :: rest =>
    set ({ rest, read := source.read + 1 } : Source)
    pure (some c)

/-- Takes characters of a kind. -/
def takeWhile (kind : Char → Bool) : Reading (List Char) := do
  let source ← get
  let taken := source.rest.takeWhile kind
  set ({ rest := source.rest.drop taken.length, read := source.read + taken.length } : Source)
  pure taken

/-- Takes blanks. -/
def skipBlanks : Reading Unit := do
  let _ ← takeWhile fun c => c == ' ' || c == '\t'

/-- The number of steps that reading what is left may take. -/
def steps : Reading Nat := do return (← get).rest.length + 1

/-- Takes digits as a number, if there are any. -/
def takeNumber? : Reading (Option Nat) := do
  let digits ← takeWhile Char.isDigit
  pure (if digits = [] then none else (String.ofList digits).toNat?)

/-- How many characters a set of characters takes, behind its opening bracket and the signs at its
front. A class of characters in it has brackets of its own. -/
def setLength : (fuel : Nat) → List Char → Nat
  | 0, _ | _, [] => 0
  | _, ']' :: _ => 1
  | fuel + 1, '[' :: ':' :: rest =>
    let name := rest.takeWhile (· ≠ ']')
    name.length + 3 + setLength fuel (rest.drop (name.length + 1))
  | fuel + 1, _ :: rest => 1 + setLength fuel rest

/-- Takes a set of characters behind its opening bracket. -/
def takeSet : Reading (List Char) := do
  let text := (← get).rest
  let front := match text with
    | '^' :: ']' :: _ => 2
    | '^' :: _ | ']' :: _ => 1
    | _ => 0
  let size := front + setLength text.length (text.drop front)
  modify fun source => { rest := source.rest.drop size, read := source.read + size }
  pure (lineBreaks (text.take size))
where
  /-- Puts line breaks in place of their escapes. -/
  lineBreaks : List Char → List Char
    | '\\' :: 'n' :: rest => '\n' :: lineBreaks rest
    | c :: rest => c :: lineBreaks rest
    | [] => []

/-- Takes a text up to a mark. A backslash takes the meaning from the mark, and in an expression a
mark in a set does not count. -/
def takeDelimited (mark : Char) (isRegex : Bool) (problem : Octets) :
    (fuel : Nat) → Reading (List Char)
  | 0 => fail problem
  | fuel + 1 => do
    match ← take with
    | none => fail problem
    | some '\\' => do
      match ← take with
      | none => fail problem
      | some c =>
        let rest ← takeDelimited mark isRegex problem fuel
        pure (if c = mark ∧ c ≠ '&' then c :: rest
          else if c = '\n' then '\n' :: rest
          else if c = 'n' ∧ isRegex then '\n' :: rest
          else '\\' :: c :: rest)
    | some c =>
      if c = mark then pure []
      else if c = '\n' ∧ isRegex then fail problem
      else if c = '[' ∧ isRegex then
        let set ← takeSet
        return '[' :: set ++ (← takeDelimited mark isRegex problem fuel)
      else return c :: (← takeDelimited mark isRegex problem fuel)

/-- Reads an expression; an empty one stands for the one that was used last. -/
def readRegex (extended : Bool) (text : List Char) : Reading (Option Regex) := do
  if text = [] then return none
  match Regex.read extended (String.ofList text) with
  | .ok regex => pure (some regex)
  | .error .openBracket => fail "unterminated address regex"
  | .error problem => fail problem.message

/-- Takes an expression as an address, behind its mark. -/
def takeRegexAddress (extended : Bool) (mark : Char) : Reading Address := do
  let text ← takeDelimited mark true "unterminated address regex" (← steps)
  let flags ← takeWhile (· ∈ ['I', 'M'])
  return .fitting (← readRegex extended text) ('I' ∈ flags)

/-- Takes an address, if there is one. -/
def takeAddress? (extended : Bool) : Reading (Option Address) := do
  match ← peek with
  | some '$' => do
    let _ ← take
    pure (some .last)
  | some '/' => do
    let _ ← take
    some <$> takeRegexAddress extended '/'
  | some '\\' => do
    let _ ← take
    match ← take with
    | some mark => some <$> takeRegexAddress extended mark
    | none => fail "unexpected \x60,'"
  | _ => match ← takeNumber? with
    | none => pure none
    | some first =>
      skipBlanks
      if (← peek) = some '~' then
        let _ ← take
        return some (.step first ((← takeNumber?).getD 0))
      else pure (some (.line first))

/-- Takes the address behind a comma. -/
def takeSecond (extended : Bool) : Reading Address := do
  skipBlanks
  match ← peek with
  | some '+' => do
    let _ ← take
    return .behind ((← takeNumber?).getD 0)
  | some '~' => do
    let _ ← take
    return .multiple ((← takeNumber?).getD 0)
  | _ => match ← takeAddress? extended with
    | some address => pure address
    | none => do
      let _ ← take
      fail "unexpected \x60,'"

/-- The character that a letter behind a backslash stands for. -/
def escaped (c : Char) : Char :=
  match c with
  | 'a' => '\x07'
  | 'f' => '\x0c'
  | 'n' => '\n'
  | 'r' => '\r'
  | 't' => '\t'
  | 'v' => '\x0b'
  | c => c

/-- The parts of a replacement. `plain` is the text that was read last. -/
def readReplacement (plain : Octets) : List Char → List Replacement
  | '\\' :: c :: rest =>
    let flushed : List Replacement := if plain = "" then [] else [.text plain]
    if c.isDigit then flushed ++ .group (c.toNat - 48) :: readReplacement "" rest
    else if c ∈ ['U', 'L', 'u', 'l', 'E'] then flushed ++ .letterCase c :: readReplacement "" rest
    else readReplacement (plain.push (escaped c)) rest
  | '&' :: rest =>
    let flushed : List Replacement := if plain = "" then [] else [.text plain]
    flushed ++ .group 0 :: readReplacement "" rest
  | c :: rest => readReplacement (plain.push c) rest
  | [] => if plain = "" then [] else [.text plain]

/-- How many groups an expression has. -/
def groupCount : Regex → Nat
  | .sequence first second | .either first second => max (groupCount first) (groupCount second)
  | .repeated _ _ body => groupCount body
  | .group number body => max number (groupCount body)
  | _ => 0

/-- Takes the letters behind a substitution. -/
def takeFlags : (fuel : Nat) → Substitution → Reading Substitution
  | 0, s => pure s
  | fuel + 1, s => do
    let several (c : Char) : Octets :=
      "multiple \x60" ++ String.singleton c ++ "' options to \x60s' command"
    match ← peek with
    | some 'g' => do
      let _ ← take
      if s.all then fail (several 'g')
      takeFlags fuel { s with all := true }
    | some 'p' => do
      let _ ← take
      if s.shows then fail (several 'p')
      takeFlags fuel { s with shows := true }
    | some 'i' | some 'I' => do
      let _ ← take
      takeFlags fuel { s with foldCase := true }
    | some 'm' | some 'M' | some 'e' => do
      let _ ← take
      takeFlags fuel s
    | some 'w' => do
      let _ ← take
      skipBlanks
      let path ← takeWhile (· ≠ '\n')
      if path = [] then fail "missing filename in r/R/w/W commands"
      pure { s with file := some (String.ofList path) }
    | some c =>
      if c.isDigit then
        match ← takeNumber? with
        | some 0 => fail "number option to \x60s' command may not be zero"
        | number =>
          if s.first.isSome then fail "multiple number options to \x60s' command"
          takeFlags fuel { s with first := number }
      else if c ∈ ['\n', ';', '\x7d', '#', ' ', '\t'] then pure s
      else do
        let _ ← take
        fail "unknown option to \x60s'"
    | none => pure s

/-- Takes a substitution behind its name. -/
def takeSubstitution (extended : Bool) : Reading Action := do
  let problem := "unterminated \x60s' command"
  match ← take with
  | none => fail problem
  | some mark => do
    let pattern ← takeDelimited mark true problem (← steps)
    let replacement ← takeDelimited mark false problem (← steps)
    let parts := readReplacement "" replacement
    let s ← takeFlags (← steps) { regex := none, replacement := parts }
    let regex ← readRegex extended pattern
    let highest := parts.foldl (fun n part => match part with
      | .group number => max n number
      | _ => n) 0
    if regex.any fun regex => highest > groupCount regex then
      fail ("invalid reference \\" ++ toString highest ++ " on \x60s' command's RHS")
    return .substitute { s with regex }

/-- The characters that a backslash leaves in a list of characters. -/
def plainCharacters : List Char → List Char
  | '\\' :: c :: rest => escaped c :: plainCharacters rest
  | c :: rest => c :: plainCharacters rest
  | [] => []

/-- Takes the text of a command, which goes on behind a backslash at the end of a line. -/
def takeText : Reading Octets := do
  skipBlanks
  if (← peek) = some '\\' then
    let _ ← take
    let blanks ← takeWhile fun c => c == ' ' || c == '\t'
    if (← peek) = some '\n' then
      let _ ← take
      return String.ofList (← line (← steps)) ++ "\n"
    return String.ofList (blanks ++ (← line (← steps))) ++ "\n"
  return String.ofList (← line (← steps)) ++ "\n"
where
  /-- Takes characters up to the end of a line. -/
  line : (fuel : Nat) → Reading (List Char)
    | 0 => pure []
    | fuel + 1 => do
      match ← take with
      | none | some '\n' => pure []
      | some '\\' => do
        match ← take with
        | none => pure []
        | some c => return c :: (← line fuel)
      | some c => return c :: (← line fuel)

/-- Takes the end of a command. Nothing may follow it on its line but another command. -/
def takeEnd : Reading Unit := do
  skipBlanks
  match ← peek with
  | none | some '\x7d' | some '#' => pure ()
  | some _ => do
    if (← take).all fun c => c ≠ '\n' ∧ c ≠ ';' then fail "extra characters after command"

/-- The end of a label. -/
def endsLabel (c : Char) : Bool := c ∈ ['\n', ';', ' ', '\t', '\x7d']

/-- Takes what a command does, behind its address, if it has one. -/
def takeAction (extended hasAddress isRange : Bool) : Reading Action := do
  match ← take with
  | none => fail "missing command"
  | some name =>
    if isRange ∧ name ∈ ['q', 'Q'] then
      fail "command only uses one address"
    match name with
    | '\x7b' => pure (.opening 0)
    | 's' => do
      let action ← takeSubstitution extended
      takeEnd
      pure action
    | 'y' => do
      let problem := "unterminated \x60y' command"
      match ← take with
      | none => fail problem
      | some mark => do
        let a ← takeDelimited mark false problem (← steps)
        let b ← takeDelimited mark false problem (← steps)
        let a := plainCharacters a
        let b := plainCharacters b
        if a.length ≠ b.length then fail "strings for \x60y' command are different lengths"
        takeEnd
        pure (.translate (a.zip b))
    | 'a' | 'i' | 'c' => do
      skipBlanks
      if (← peek) = none then fail "expected \\ after \x60a', \x60c' or \x60i'"
      return .text name (← takeText)
    | ':' => do
      if hasAddress then fail ": doesn't want any addresses"
      skipBlanks
      let label ← takeWhile fun c => c ≠ '\n' && c ≠ ';' && c ≠ ' ' && c ≠ '\t'
      if label = [] then fail "\":\" lacks a label"
      takeEnd
      pure (.label (String.ofList label))
    | 'b' | 't' | 'T' => do
      skipBlanks
      let label ← takeWhile fun c => !endsLabel c
      takeEnd
      pure (.branch name (String.ofList label))
    | 'r' | 'w' => do
      skipBlanks
      let path ← takeWhile (· ≠ '\n')
      if path = [] then fail "missing filename in r/R/w/W commands"
      pure (.file name (String.ofList path))
    | 'q' | 'Q' => do
      skipBlanks
      let status := (← takeNumber?).getD 0
      takeEnd
      pure (.quit (name == 'Q') status)
    | name =>
      if name ∈ "dDpPnNgGhHx=lzF".toList then
        takeEnd
        pure (.plain name)
      else fail ("unknown command: \x60" ++ String.singleton name ++ "'")

/-- Takes the signs that turn an address round. -/
def takeNegation : Reading Bool := do
  skipBlanks
  if (← peek) = some '!' then
    let _ ← take
    skipBlanks
    if (← peek) = some '!' then
      let _ ← take
      fail "multiple \x60!'s"
    pure true
  else pure false

/-- Takes commands up to the end. `opened` are the places of braces that are not closed. -/
def takeInstructions (extended : Bool) :
    (fuel : Nat) → (opened : List Nat) → (before : Array Instruction) → Reading (Array Instruction)
  | 0, _, before => pure before
  | fuel + 1, opened, before => do
    let _ ← takeWhile fun c => c == ' ' || c == '\t' || c == '\n' || c == ';'
    match ← peek with
    | none => if opened = [] then pure before else throw ⟨0, "unmatched \x60\x7b'"⟩
    | some '#' => do
      let _ ← takeWhile (· ≠ '\n')
      takeInstructions extended fuel opened before
    | some _ => do
      let first ← takeAddress? extended
      skipBlanks
      let second ← if first.isSome ∧ (← peek) = some ',' then do
          let _ ← take
          some <$> takeSecond extended
        else pure none
      let negated ← takeNegation
      match first, second with
      | some (.line 0), some (.fitting _ _) => pure ()
      | some (.line 0), _ => do
        let _ ← take
        fail "invalid usage of line address 0"
      | _, _ => pure ()
      if (← peek) = some '\x7d' then
        let _ ← take
        match opened with
        | [] => fail "unexpected \x60\x7d'"
        | place :: opened => do
          if first.isSome then fail "\x7d doesn't want any addresses"
          takeEnd
          let closed := before.modify place ({ · with action := .opening before.size })
          takeInstructions extended fuel opened (closed.push { action := .closing })
      else
        if first.isNone ∧ (← peek) = some ',' then
          let _ ← take
          fail "unexpected \x60,'"
        let action ← takeAction extended first.isSome second.isSome
        let opened := if action matches .opening _ then before.size :: opened else opened
        takeInstructions extended fuel opened (before.push { first, second, negated, action })

/-- Reads the text of commands. -/
def readInstructions (extended : Bool) (text : Octets) : Except Fault (Array Instruction) := do
  let chars := text.toList
  let (instructions, _) ←
    (takeInstructions extended (chars.length + 1) [] #[]).run { rest := chars }
  .ok instructions

/-- The label that some branch leads to and that is not there. -/
def missingLabel? (instructions : Array Instruction) : Option Octets :=
  instructions.toList.findSome? fun instruction => match instruction.action with
    | .branch _ label =>
      if label = "" then none
      else if instructions.any fun other => match other.action with
        | .label name => name == label
        | _ => false
      then none else some label
    | _ => none

end HybridTx.Program.Edit
