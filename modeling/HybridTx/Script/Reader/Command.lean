import HybridTx.Script.Reader.Word

/-! Reading commands. Lists inside other commands are read by a reader one level below, so the depth
of the nesting bounds the work. -/

namespace HybridTx.Script

/-- How a list of commands ends: with its line, or before a token that ends lists, in which case it
may be allowed to be empty. -/
inductive ListStyle
  | line
  | body
  | optional
deriving DecidableEq

/-- The parts of commands that contain commands. -/
inductive Part
  | list (style : ListStyle)
  | single

/-- What reads the parts of a command. -/
abbrev Parts := Part → Reading Command

/-- The commands whose failure ends a script, and whose names no function can have. -/
def specialNames : List String :=
  [".", ":", "break", "continue", "eval", "exec", "exit", "export", "local", "readonly", "return",
    "set", "shift", "times", "trap", "unset"]

/-- Splits an assignment into its name and the word behind the sign. The name is not quoted. -/
def assignment? (word : Word) : Option (String × Word) :=
  match word with
  | .text characters false :: rest =>
    let text := characters.toList
    let name := String.ofList (text.takeWhile (· ≠ '='))
    match text.drop name.length with
    | _ :: value =>
      if isName name then
        some (name, if value = [] then rest else .text (String.ofList value) false :: rest)
      else none
    | [] => none
  | _ => none

namespace Reading

variable (parts : Parts)

/-- The commands inside a word. -/
def inWord : Reading Command := parts (.list .optional)

/-- The next token, where no keyword is expected. -/
def plainToken : Reading Token := token (inWord parts) false false

/-- The next token, where a keyword may stand. -/
def keyToken : Reading Token := token (inWord parts) false true

/-- The next token on this line or a later one, where a keyword may stand. -/
def laterToken : Reading Token := token (inWord parts) true true

/-- Takes a keyword, or complains. -/
def expect (wanted : Token) (found : Token) : Reading Unit :=
  if found.sameAs wanted then pure () else fail (.expecting found wanted)

/-- The target behind an arrow. -/
def takeTarget (arrow : Arrow) : Reading Target := do
  match arrow with
  | .document stripTabs =>
    match ← peekMark (← steps) with
    | none => fail (.unexpected (← plainToken parts))
    | some _ =>
      let mark ← takeWord (inWord parts) .mark
      if mark = [] then fail (.unexpected (← plainToken parts))
      let (line, body) ← takeDocument mark.spelled.toList stripTabs
      if mark.any isQuotedText then
        pure (.document [.text (String.ofList body) true])
      else return .document (← readDocument (inWord parts) line body)
  | _ =>
    match ← plainToken parts with
    | .word word => pure (match arrow with
      | .read => .read word
      | .write force => .write word force
      | .append => .append word
      | .readWrite => .readWrite word
      | _ => .same word)
    | found => fail (.unexpected found)
where
  /-- Text in quotes. -/
  isQuotedText : Piece → Bool
    | .text _ quoted => quoted
    | _ => false
  /-- The first character behind blanks. -/
  peekMark : (fuel : Nat) → Reading (Option Char)
    | 0 => pure none
    | fuel + 1 => do
      match ← peek with
      | some ' ' | some '\t' =>
        let _ ← takeRaw
        peekMark fuel
      | c => pure c

/-- The stream of a copy must be a single digit or a dash, if it is spelled out. -/
def takeRedirect (stream : Nat) (arrow : Arrow) : Reading Redirect := do
  return .mk stream (← takeTarget parts arrow)

/-- Goes on with a simple command: assignments, then words, and redirections among them. -/
def takeSimple (line : Nat) : (fuel : Nat) → (assignments : List (String × Word)) →
    (words : List Word) → (redirects : List Redirect) → Reading Command
  | 0, _, _, _ => pure .skip
  | fuel + 1, assignments, words, redirects => do
    match ← plainToken parts with
    | .word word =>
      match words, assignment? word with
      | [], some assignment => takeSimple line fuel (assignment :: assignments) [] redirects
      | words, _ => takeSimple line fuel assignments (word :: words) redirects
    | .redirect stream arrow =>
      let redirect ← takeRedirect parts stream arrow
      takeSimple line fuel assignments words (redirect :: redirects)
    | found =>
      match found, assignments, words, redirects with
      | .opening, [], [name], [] =>
        let found ← plainToken parts
        expect .closing found
        let name ← match Word.plain? name with
          | some name =>
            if isName name ∧ name ∉ specialNames then pure name else fail .functionName
          | none => fail .functionName
        let first ← laterToken parts
        hold first
        return .define name (← parts .single)
      | _, _, _, _ =>
        hold found
        pure (.simple line assignments.reverse words.reverse redirects.reverse)

/-- The words of a loop up to the end of their line. -/
def takeWords : (fuel : Nat) → (words : List Word) → Reading (List Word)
  | 0, words => pure words.reverse
  | fuel + 1, words => do
    match ← plainToken parts with
    | .word word => takeWords fuel (word :: words)
    | .newline | .semicolon => pure words.reverse
    | found => fail (.unexpected found)

/-- The patterns of an arm behind its first word, up to the closing bracket. -/
def takePatterns : (fuel : Nat) → (found : Token) → (patterns : List Word) → Reading (List Word)
  | 0, _, patterns => pure patterns.reverse
  | fuel + 1, found, patterns => do
    let patterns := match found with
      | .word word => word :: patterns
      | .keyword k => Word.ofText k.spelling :: patterns
      | _ => patterns
    match ← plainToken parts with
    | .pipe => takePatterns fuel (← plainToken parts) patterns
    | found => do
      expect .closing found
      pure patterns.reverse

/-- The arms of a selection up to its end. -/
def takeArms : (fuel : Nat) → Reading Arms
  | 0 => pure .none
  | fuel + 1 => do
    match ← laterToken parts with
    | .keyword .esac => pure .none
    | found =>
      let first ← match found with
        | .opening => plainToken parts
        | found => pure found
      match first with
      | .word _ | .keyword _ => pure ()
      | _ => fail (.expecting (← plainToken parts) .closing)
      let patterns ← takePatterns parts (← steps) first []
      let body ← parts (.list .optional)
      match ← laterToken parts with
      | .keyword .esac => pure (.arm patterns body .none)
      | found =>
        expect .armEnd found
        return .arm patterns body (← takeArms fuel)

/-- The rest of a condition behind its first keyword. -/
def takeChoice : (fuel : Nat) → Reading Command
  | 0 => pure .skip
  | fuel + 1 => do
    let test ← parts (.list .body)
    expect (.keyword .thenBody) (← keyToken parts)
    let yes ← parts (.list .body)
    match ← keyToken parts with
    | .keyword .elseIf => return .choose test yes (← takeChoice fuel)
    | .keyword .elseBody =>
      let no ← parts (.list .body)
      expect (.keyword .fi) (← keyToken parts)
      pure (.choose test yes no)
    | found =>
      expect (.keyword .fi) found
      pure (.choose test yes .skip)

/-- The redirections behind a command that ends with a keyword or a bracket. -/
def takeRedirects : (fuel : Nat) → Reading (List Redirect)
  | 0 => pure []
  | fuel + 1 => do
    match ← keyToken parts with
    | .redirect stream arrow =>
      let redirect ← takeRedirect parts stream arrow
      return redirect :: (← takeRedirects fuel)
    | found =>
      hold found
      pure []

/-- The body of a loop, between its keywords. -/
def takeBody (found : Token) : Reading Command := do
  expect (.keyword .doBody) found
  let body ← parts (.list .body)
  expect (.keyword .done) (← keyToken parts)
  pure body

/-- A loop over words, behind its first keyword. -/
def takeEach (line : Nat) : Reading Command := do
  let name ← match ← plainToken parts with
    | .word word => match Word.plain? word with
      | some name => if isName name then pure name else fail .loopVariable
      | none => fail .loopVariable
    | _ => fail .loopVariable
  let words ← match ← laterToken parts with
    | .keyword .inWords => takeWords parts (← steps) []
    | .semicolon => pure [Word.allParameters]
    | found => do
      hold found
      pure [Word.allParameters]
  return .each line name words (← takeBody parts (← laterToken parts))

/-- A selection, behind its first keyword. -/
def takeSelection (line : Nat) : Reading Command := do
  let subject ← match ← plainToken parts with
    | .word word => pure word
    | found => fail (.expecting found (.word []))
  expect (.keyword .inWords) (← laterToken parts)
  return .select line subject (← takeArms parts (← steps))

/-- Reads one command with its redirections. -/
def takeCommand (acrossLines : Bool) : Reading Command := do
  let first ← token (inWord parts) acrossLines true
  let line := (← get).line
  let compound (command : Command) : Reading Command := do
    match ← takeRedirects parts (← steps) with
    | [] => pure command
    | redirects => pure (.redirected line command redirects)
  match first with
  | .keyword .ifTest => compound (← takeChoice parts (← steps))
  | .keyword .whileTest =>
    let test ← parts (.list .body)
    compound (.loop true test (← takeBody parts (← keyToken parts)))
  | .keyword .untilTest =>
    let test ← parts (.list .body)
    compound (.loop false test (← takeBody parts (← keyToken parts)))
  | .keyword .forEach => compound (← takeEach parts line)
  | .keyword .caseOf => compound (← takeSelection parts line)
  | .opening =>
    let body ← parts (.list .body)
    expect .closing (← keyToken parts)
    return .subshell line body (← takeRedirects parts (← steps))
  | .keyword .opening =>
    let body ← parts (.list .body)
    expect (.keyword .closing) (← keyToken parts)
    compound body
  | .word _ | .redirect _ _ =>
    hold first
    takeSimple parts line (← steps) [] [] []
  | found => fail (.unexpected found)

/-- The commands of a pipe behind the first. -/
def takePipe : (fuel : Nat) → (first : Command) → Reading Command
  | 0, first => pure first
  | fuel + 1, first => do
    match ← plainToken parts with
    | .pipe =>
      let second ← takeCommand parts true
      return .pipe first (← takePipe fuel second)
    | found =>
      hold found
      pure first

/-- A pipe, perhaps negated. -/
def takePipeline (acrossLines : Bool) : Reading Command := do
  match ← token (inWord parts) acrossLines true with
  | .keyword .bang =>
    let first ← takeCommand parts false
    return .negation (← takePipe parts (← steps) first)
  | found =>
    hold found
    let first ← takeCommand parts false
    takePipe parts (← steps) first

/-- Pipes that depend on each other, behind the first. -/
def takeChain : (fuel : Nat) → (first : Command) → Reading Command
  | 0, first => pure first
  | fuel + 1, first => do
    match ← plainToken parts with
    | .both => takeChain fuel (.both first (← takePipeline parts true))
    | .either => takeChain fuel (.either first (← takePipeline parts true))
    | found =>
      hold found
      pure first

/-- One command of a list. -/
def takeAndOr : Reading Command := do
  let first ← takePipeline parts false
  takeChain parts (← steps) first

/-- Goes on with a list of commands, of which `first` is what was read. The end of the text is put
back. -/
def takeList (style : ListStyle) : (fuel : Nat) → (first : Option Command) →
    Reading (Option Command)
  | 0, first => pure first
  | fuel + 1, first => do
    match ← token (inWord parts) (style ≠ .line) true with
    | .newline => pure first
    | .finish =>
      hold .finish
      pure first
    | found =>
      hold found
      if found.endsList ∧ (style = .optional ∨ (style = .body ∧ first.isSome)) then
        return first
      let line := (← get).line
      let command ← takeAndOr parts
      let next ← plainToken parts
      let command := match next with
        | .background => Command.background line command
        | _ => command
      let all := match first with
        | some first => Command.sequence first command
        | none => command
      match next with
      | .background | .semicolon => takeList style fuel (some all)
      | .newline | .finish =>
        hold next
        takeList style fuel (some all)
      | found =>
        if style = .line then fail (.unexpected found)
        hold found
        pure (some all)

end Reading

/-- Reads the parts of commands that are nested no deeper than `depth`. -/
def readPart : (depth : Nat) → Parts
  | 0, _ => pure .skip
  | depth + 1, .single => Reading.takeCommand (readPart depth) false
  | depth + 1, .list style => do
    return (← Reading.takeList (readPart depth) style (← Reading.steps) none).getD .skip

/-- Reads the commands of the next line that has any; none at the end of the text. -/
def nextCommand? (source : Source) : Except Fault (Option (Command × Source)) :=
  go (source.rest.length + 1) source
where
  /-- Reads line by line. -/
  go : (fuel : Nat) → Source → Except Fault (Option (Command × Source))
    | 0, _ => .ok none
    | fuel + 1, source => do
      let parts := readPart (source.rest.length + 1)
      let (command?, source) ← (Reading.takeList parts .line (2 * source.rest.length + 16) none).run
        source
      match command?, source.held with
      | some command, _ => .ok (some (command, { source with held := none }))
      | none, some _ => .ok none
      | none, none => go fuel source

end HybridTx.Script
