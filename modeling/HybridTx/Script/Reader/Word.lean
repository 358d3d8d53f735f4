import HybridTx.Script.Source

/-! Reading words and the tokens around them. Commands inside words are read by a reader that is
passed in. -/

namespace HybridTx.Script

/-- What a character may mean depends on what it stands in: a bare word, double quotes, the braces
of a parameter in or out of quotes, a sum, the body of a document, or a document's mark. -/
inductive Context
  | bare
  | quoted
  | braces (quoted : Bool)
  | sum
  | document
  | mark
deriving DecidableEq

namespace Context

/-- Text in this context counts as quoted. -/
def isQuoted : Context → Bool
  | quoted | braces true | sum | document => true
  | bare | braces false | mark => false

/-- The characters that a backslash takes the meaning from; it stays before any other. -/
def escapes (context : Context) (c : Char) : Bool :=
  !context.isQuoted || c ∈ ['\\', '\x60', '$'] ||
    match context with
    | quoted | sum => c == '"'
    | braces _ => c == '"' || c == '\x7d'
    | _ => false

end Context

/-- The characters that end a word outside quotes. -/
def endsWord (c : Char) : Bool := c ∈ [' ', '\t', '\n', ';', '&', '|', '(', ')', '<', '>']

/-- A letter or an underscore, with which a name begins. -/
def isNameStart (c : Char) : Bool := c.isAlpha || c == '_'

/-- A character of a name. -/
def isNameRest (c : Char) : Bool := c.isAlphanum || c == '_'

/-- A text that may be the name of a variable. -/
def isName (text : Octets) : Bool :=
  match text.toList with
  | c :: rest => isNameStart c && rest.all isNameRest
  | [] => false

/-- The parameters that a script has of itself, digits aside. -/
def isSpecial (c : Char) : Bool := c ∈ ['!', '#', '$', '*', '-', '?', '@'] || c.isDigit

namespace Piece

/-- Goes on with a character, in front of the pieces read before it. -/
def push (c : Char) (quoted : Bool) : List Piece → List Piece
  | .text characters q :: rest =>
    if q = quoted then .text (characters.push c) q :: rest
    else .text (String.singleton c) quoted :: .text characters q :: rest
  | pieces => .text (String.singleton c) quoted :: pieces

/-- All parameters, in quotes. -/
def isAllParameters : Piece → Bool
  | .parameter "@" .value true => true
  | _ => false

end Piece

namespace Reading

/-- The pieces of a quoted part behind those before it. Quotes leave a mark, since they make a field
even if they are empty; only around all parameters alone they do not. -/
def joinQuoted (before quoted : List Piece) : List Piece :=
  match quoted with
  | [piece] => if piece.isAllParameters then piece :: before
    else piece :: .text "" true :: before
  | pieces => pieces.reverse ++ .text "" true :: before

/-- The text up to a single quote. -/
def takeSingleQuoted : (fuel : Nat) → Reading Octets
  | 0 => fail .openQuote
  | fuel + 1 => do
    match ← takeRaw with
    | none => fail .openQuote
    | some '\'' => pure ""
    | some c => return String.singleton c ++ (← takeSingleQuoted fuel)

/-- The text up to a backquote, in which a backslash is needed before one. -/
def takeBackquoted (quoted : Bool) : (fuel : Nat) → Reading (List Char)
  | 0 => fail .openOutput
  | fuel + 1 => do
    match ← take with
    | none => fail .openOutput
    | some '\x60' => pure []
    | some '\\' => match ← takeRaw with
      | none => fail .openOutput
      | some c =>
        let bare := c ∈ ['\\', '\x60', '$'] ∨ (quoted ∧ c = '"')
        let rest ← takeBackquoted quoted fuel
        pure (if bare then c :: rest else '\\' :: c :: rest)
    | some c => return c :: (← takeBackquoted quoted fuel)

/-- What the output of commands is made of: commands between brackets. -/
def takeOutput (commands : Reading Command) : Reading Command := do
  let command ← commands
  let source ← get
  match source.held with
  | some .closing =>
    set { source with held := none }
    pure command
  | found => fail (.expecting (found.getD .finish) .closing)

/-- The commands between backquotes, whose lines count from one. -/
def readBackquoted (commands : Reading Command) (quoted : Bool) : Reading Command := do
  let text ← takeBackquoted quoted (← steps)
  let outer ← get
  set ({ rest := text } : Source)
  let command ← commands
  set outer
  pure command

/-- The name of a parameter in braces. A lone `#` asks for the length of the parameter behind it;
none if no parameter can be named so. -/
def takeBraced : Reading (Option (String × Bool)) := do
  match ← peek with
  | some c =>
    if isNameStart c then
      return some (String.ofList (← takeWhile isNameRest (← steps)), false)
    else if c.isDigit then
      return some (String.ofList (← takeWhile Char.isDigit (← steps)), false)
    else if c = '\x7d' then pure none
    else
      let _ ← take
      let next ← peek
      match c, next with
      | '#', some d =>
        if isNameRest d then
          let name ← takeWhile (if d.isDigit then Char.isDigit else isNameRest) (← steps)
          return some (String.ofList name, true)
        else if isSpecial d then
          let before ← get
          let _ ← take
          if (← peek) = some '\x7d' then pure (some (String.singleton d, true))
          else
            set before
            pure (some ("#", false))
        else pure (some ("#", false))
      | _, _ => pure (if isSpecial c then some (String.singleton c, false) else none)
  | none => pure none

/-- The alternatives for an absent parameter, by the characters that ask for them. -/
def alternative? : Char → Option Alternative
  | '-' => some .orElse
  | '+' => some .ifSet
  | '?' => some .orFail
  | '=' => some .orAssign
  | _ => none

mutual

/-- Reads on in a context to its end, with `read` the reversed pieces so far. In a sum, `depth`
brackets are open. -/
def takePieces (commands : Reading Command) :
    (fuel : Nat) → Context → (depth : Nat) → (read : List Piece) → Reading Word
  | 0, _, _, _ => fail .openQuote
  | fuel + 1, context, depth, read => do
    let next ← if context = .mark then (do return (← get).rest.head?) else peek
    let goOn := takePieces commands fuel context
    match next, context with
    | none, .bare | none, .mark | none, .document => pure read.reverse
    | none, .quoted | none, .braces true => fail .openQuote
    | none, .braces false => fail .openBrace
    | none, .sum => fail .openSum
    | some c, _ => do
      if (context = .bare ∨ context = .mark) ∧ endsWord c then return read.reverse
      let _ ← take
      match c, context with
      | '"', .quoted | '\x7d', .braces _ => pure read.reverse
      | '"', .document | '"', .sum => goOn depth (Piece.push c true read)
      | '"', _ =>
        let quoted ← takePieces commands fuel .quoted 0 []
        goOn depth (if context.isQuoted then quoted.reverse ++ read else joinQuoted read quoted)
      | '\'', .bare | '\'', .mark | '\'', .braces false =>
        let text ← takeSingleQuoted (← steps)
        goOn depth (.text text true :: read)
      | '\\', _ =>
        match ← takeRaw with
        | none => goOn depth (Piece.push '\\' true read)
        | some d =>
          goOn depth (Piece.push d true (if context.escapes d then read
            else Piece.push '\\' true read))
      | '\x60', .mark => goOn depth (Piece.push c false read)
      | '\x60', _ =>
        let command ← readBackquoted commands context.isQuoted
        goOn depth (.output command context.isQuoted :: read)
      | '$', .mark => goOn depth (Piece.push c false read)
      | '$', _ => goOn depth (← takeDollar commands fuel context read)
      | '(', .sum => goOn (depth + 1) (Piece.push c true read)
      | ')', .sum =>
        if depth > 0 then goOn (depth - 1) (Piece.push c true read)
        else if ← takeIf ')' then pure read.reverse
        else goOn depth (Piece.push c true read)
      | _, _ => goOn depth (Piece.push c context.isQuoted read)

/-- Reads what follows a dollar sign: a parameter, a sum, the output of commands, or nothing that
would give the sign a meaning. -/
def takeDollar (commands : Reading Command) :
    (fuel : Nat) → Context → (read : List Piece) → Reading (List Piece)
  | 0, _, read => pure read
  | fuel + 1, context, read => do
    let quoted := context.isQuoted
    match ← peek with
    | some '(' =>
      let _ ← take
      if ← takeIf '(' then
        return .sum (← takePieces commands fuel .sum 0 []) quoted :: read
      else return .output (← takeOutput commands) quoted :: read
    | some '\x7b' =>
      let _ ← take
      match ← takeBraced with
      | none =>
        let _ ← takePieces commands fuel (.braces quoted) 0 []
        return .parameter "" .invalid quoted :: read
      | some (name, true) =>
        if ← takeIf '\x7d' then return .parameter name .length quoted :: read
        let _ ← takePieces commands fuel (.braces quoted) 0 []
        return .parameter name .invalid quoted :: read
      | some (name, false) =>
        return .parameter name (← takeUse commands fuel quoted) quoted :: read
    | some c =>
      if isNameStart c then
        let name ← takeWhile isNameRest (← steps)
        pure (.parameter (String.ofList name) .value quoted :: read)
      else if isSpecial c then
        let _ ← take
        pure (.parameter (String.singleton c) .value quoted :: read)
      else pure (Piece.push '$' quoted read)
    | none => pure (Piece.push '$' quoted read)

/-- Reads what follows the name of a parameter in braces. -/
def takeUse (commands : Reading Command) : (fuel : Nat) → (quoted : Bool) → Reading Use
  | 0, _ => pure .invalid
  | fuel + 1, quoted => do
    match ← peek with
    | some '\x7d' =>
      let _ ← take
      pure .value
    | some '%' | some '#' =>
      let c := (← take).getD '#'
      let longest ← takeIf c
      return .trim (c = '%') longest (← takePieces commands fuel (.braces false) 0 [])
    | none => fail (if quoted then .openQuote else .openBrace)
    | some _ =>
      let nullToo ← takeIf ':'
      match (← peek).bind alternative? with
      | some kind =>
        let _ ← take
        return .alternative kind nullToo (← takePieces commands fuel (.braces quoted) 0 [])
      | none =>
        let _ ← takePieces commands fuel (.braces quoted) 0 []
        pure .invalid

end

/-- A word that is not empty, or part of one. -/
def takeWord (commands : Reading Command) (context : Context) : Reading Word := do
  takePieces commands (← steps) context 0 []

/-- The body of a document in which parameters count. -/
def readDocument (commands : Reading Command) (line : Nat) (body : List Char) : Reading Word := do
  let outer ← get
  set ({ rest := body, line } : Source)
  let word ← takeWord commands .document
  set outer
  pure word

/-- The arrow behind an opening `<` or `>`. -/
def takeArrow : Reading Arrow := do
  if ← takeIf '>' then
    if ← takeIf '>' then pure .append
    else if ← takeIf '|' then pure (.write true)
    else if ← takeIf '&' then pure .sameOut
    else pure (.write false)
  else
    let _ ← takeIf '<'
    if ← takeIf '<' then
      if ← takeIf '-' then pure (.document true) else pure (.document false)
    else if ← takeIf '&' then pure .sameIn
    else if ← takeIf '>' then pure .readWrite
    else pure .read

/-- The stream that an arrow is about: a digit right before it names one. -/
def streamBefore? (word : Word) (arrow : Arrow) : Option Nat :=
  match word with
  | [] => match arrow with
    | .read | .readWrite | .sameIn | .document _ => some 0
    | _ => some 1
  | [.text characters false] => match characters.toList with
    | [c] => if c.isDigit then some (c.toNat - 48) else none
    | _ => none
  | _ => none

/-- The number of a stream may stand in this word. -/
def mayNumber (word : Word) : Bool := (streamBefore? word .read).isSome

/-- Cuts one token off. -/
def takeToken (commands : Reading Command) : (fuel : Nat) → Reading Token
  | 0 => pure .finish
  | fuel + 1 => do
    match ← peek with
    | none => pure .finish
    | some ' ' | some '\t' => do
      let _ ← take
      takeToken commands fuel
    | some '#' => do
      skipComment
      takeToken commands fuel
    | some '\n' => do
      let _ ← take
      pure .newline
    | some '&' => do
      let _ ← take
      if ← takeIf '&' then pure .both else pure .background
    | some '|' => do
      let _ ← take
      if ← takeIf '|' then pure .either else pure .pipe
    | some ';' => do
      let _ ← take
      if ← takeIf ';' then pure .armEnd else pure .semicolon
    | some '(' => do
      let _ ← take
      pure .opening
    | some ')' => do
      let _ ← take
      pure .closing
    | some _ => do
      let word ← takeWord commands .bare
      let next ← peek
      if (next = some '<' ∨ next = some '>') ∧ mayNumber word then
        let arrow ← takeArrow
        pure (.redirect ((streamBefore? word arrow).getD 0) arrow)
      else pure (.word word)

/-- The token that was put back, or a new one. -/
def anyToken (commands : Reading Command) : Reading Token := do
  let source ← get
  match source.held with
  | some token =>
    set { source with held := none }
    pure token
  | none => takeToken commands (← steps)

/-- Drops line breaks before a token. -/
def skipNewlines (commands : Reading Command) : (fuel : Nat) → Token → Reading Token
  | 0, token => pure token
  | fuel + 1, .newline => do skipNewlines commands fuel (← anyToken commands)
  | _, token => pure token

/-- The next token. Line breaks may be of no account, and words may count as keywords. -/
def token (commands : Reading Command) (acrossLines keywords : Bool) : Reading Token := do
  let first ← anyToken commands
  let token ← if acrossLines then skipNewlines commands (← steps) first else pure first
  pure (if keywords then token.promote else token)

end Reading

end HybridTx.Script
