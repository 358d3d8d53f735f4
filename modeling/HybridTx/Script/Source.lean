import HybridTx.Script.Token

/-! The text of a script while it is read, character by character. A backslash before a line break
joins two lines, and the bodies of documents are taken out of the text as soon as they are
announced. -/

namespace HybridTx.Script

/-- What is left of a script. -/
structure Source where
  rest : List Char
  /-- The line that `rest` starts in. -/
  line : Nat := 1
  /-- Lines that were taken out behind the end of this line. -/
  hidden : Nat := 0
  /-- A token that was read too far. -/
  held : Option Token := none

/-- A fault in the form of a script, and its line. -/
structure Fault where
  line : Nat
  error : SyntaxError

/-- Reading a part of a script. -/
abbrev Reading := StateT Source (Except Fault)

namespace Reading

/-- The script is not well formed at this line. -/
def fail {α : Type} (error : SyntaxError) : Reading α := do throw ⟨(← get).line, error⟩

/-- Counts a line break. -/
def countLine (source : Source) : Source :=
  { source with line := source.line + 1 + source.hidden, hidden := 0 }

/-- Takes one character, whatever it is. -/
def takeRaw : Reading (Option Char) := do
  let source ← get
  match source.rest with
  | [] => pure none
  | c :: rest =>
    let source := { source with rest }
    set (if c = '\n' then countLine source else source)
    pure (some c)

/-- How many lines are joined at the front of a text, and the text behind them. -/
def skipJoins (joined : Nat) : List Char → Nat × List Char
  | '\\' :: '\n' :: rest => skipJoins (joined + 1) rest
  | rest => (joined, rest)

/-- The next character, which is not taken. -/
def peek : Reading (Option Char) := do
  let source ← get
  let (joined, rest) := skipJoins 0 source.rest
  set ((List.range joined).foldl (fun source _ => countLine source) { source with rest })
  pure rest.head?

/-- Takes one character behind joined lines. -/
def take : Reading (Option Char) := do
  let _ ← peek
  takeRaw

/-- Takes the next character if it is a given one. -/
def takeIf (c : Char) : Reading Bool := do
  if (← peek) = some c then
    let _ ← takeRaw
    pure true
  else pure false

/-- Takes characters as long as they are of a kind. -/
def takeWhile (kind : Char → Bool) : (fuel : Nat) → Reading (List Char)
  | 0 => pure []
  | fuel + 1 => do
    match ← peek with
    | some c =>
      if kind c then
        let _ ← takeRaw
        return c :: (← takeWhile kind fuel)
      else pure []
    | none => pure []

/-- Enough steps to take every character twice. -/
def steps : Reading Nat := do return 2 * (← get).rest.length + 16

/-- Puts a token back. -/
def hold (token : Token) : Reading Unit := modify ({ · with held := some token })

/-- Drops a comment up to the end of its line. -/
def skipComment : Reading Unit :=
  modify fun source => { source with rest := source.rest.dropWhile (· ≠ '\n') }

/-- Cuts a text behind the end of its first line, with `read` the reversed line so far. No line ends
in quotes; a comment, which `'#'` stands for, does not open any. -/
def cutLine (read : List Char) : (inside : Option Char) → List Char → List Char × List Char
  | _, [] => (read.reverse, [])
  | none, '\\' :: c :: rest => cutLine (c :: '\\' :: read) none rest
  | some '"', '\\' :: c :: rest => cutLine (c :: '\\' :: read) (some '"') rest
  | some '#', '\n' :: rest | none, '\n' :: rest => (('\n' :: read).reverse, rest)
  | none, c :: rest =>
    let blank := match read with
      | d :: _ => d ∈ [' ', '\t', ';', '&', '|', '(', ')']
      | [] => false
    let opens := c == '\'' || c == '"' || (c == '#' && blank)
    cutLine (c :: read) (if opens then some c else none) rest
  | some quote, c :: rest =>
    cutLine (c :: read) (if c = quote ∧ c ≠ '#' then none else some quote) rest

/-- The lines of a document before the line that is its mark, and the text behind that line. -/
def cutDocument (mark : List Char) (stripTabs : Bool) :
    (fuel : Nat) → List Char → List Char × List Char
  | 0, text => ([], text)
  | _, [] => ([], [])
  | fuel + 1, text =>
    let line := text.takeWhile (· ≠ '\n')
    let rest := text.drop (line.length + 1)
    let shown := if stripTabs then line.dropWhile (· = '\t') else line
    if shown = mark then ([], rest)
    else
      let (body, rest) := cutDocument mark stripTabs fuel rest
      (shown ++ (if line.length < text.length then '\n' :: body else body), rest)

/-- Takes the document with a given mark out of the text behind this line, and gives it with the
line that it starts in. -/
def takeDocument (mark : List Char) (stripTabs : Bool) : Reading (Nat × List Char) := do
  let source ← get
  let (line, behind) := cutLine [] none source.rest
  let (body, rest) := cutDocument mark stripTabs (behind.length + 1) behind
  let first := source.line + 1 + source.hidden
  let removed := behind.count '\n' - rest.count '\n'
  set { source with rest := line ++ rest, hidden := source.hidden + removed }
  pure (first, body)

end Reading

end HybridTx.Script
