import HybridTx.Toml.Number
import HybridTx.Toml.Table
import HybridTx.Toml.Text

/-! Reading configuration texts. -/

namespace HybridTx.Toml

/-- Drops a comment up to the end of its line; none if it holds a control character. -/
def skipComment : List Char → Option (List Char)
  | '#' :: rest =>
    let body := rest.takeWhile fun c => c == '\t' || c.toNat ≥ 32
    if body.any isControl then none else some (rest.drop body.length)
  | text => some text

/-- Takes the end of a line: blanks, perhaps a comment, and a line break or the end of the text. -/
def takeLineEnd (text : List Char) : Option (List Char) := do
  match ← skipComment (skipSpaces text) with
  | [] => some []
  | rest => takeBreak rest

/-- Drops blanks, line breaks and comments. -/
def skipLines : (fuel : Nat) → List Char → Option (List Char)
  | 0, _ => none
  | fuel + 1, text =>
    match skipSpaces text with
    | '#' :: rest => do skipLines fuel (← skipComment ('#' :: rest))
    | rest =>
      match takeBreak rest with
      | some rest => skipLines fuel rest
      | none => some rest

/-- A character of a key without quotes. -/
def isBare (c : Char) : Bool := c.isAlphanum || c == '_' || c == '-'

/-- Reads a key without dots. -/
def readName (text : List Char) : Option (String × List Char) :=
  match text with
  | '"' :: rest => readBasic (text.length + 1) [] rest
  | '\'' :: rest => readLiteral rest
  | text =>
    let name := text.takeWhile isBare
    if name = [] then none else some (String.ofList name, text.drop name.length)

/-- Keys and values may nest up to this depth, exclusively. -/
def depthLimit : Nat := 80

/-- Reads the names of a key; `count` bounds them. -/
def readPath : (count : Nat) → List Char → Option (List String × List Char)
  | 0, _ => none
  | count + 1, text => do
    let (name, rest) ← readName (skipSpaces text)
    match skipSpaces rest with
    | '.' :: rest => do
      let (path, rest) ← readPath count rest
      some (name :: path, rest)
    | rest => some ([name], rest)

/-- Reads a key: the path of the table that it is in, and its last name. -/
def readKey (text : List Char) : Option ((List String × String) × List Char) := do
  let (names, rest) ← readPath (depthLimit - 1) text
  some ((names.dropLast, ← names.getLast?), rest)

/-- Reads a number or a date. -/
def readNumber (text : List Char) : Option (Value × List Char) :=
  match readMoment text, readFraction text with
  | some rest, _ => some (.moment, rest)
  | none, some rest => some (.fraction, rest)
  | none, none => (readInteger text).map fun (number, rest) => (.integer number, rest)

mutual

/-- Reads a value. At depth zero it has no values of its own. -/
def readValue : (fuel depth : Nat) → List Char → Option (Value × List Char)
  | 0, _, _ => none
  | fuel + 1, depth, text =>
    match text with
    | '"' :: _ | '\'' :: _ => (readString text).map fun (s, rest) => (.string s, rest)
    | '[' :: rest =>
      match depth with
      | 0 => none
      | depth + 1 => readItems fuel depth [] rest
    | '\x7b' :: rest =>
      match depth with
      | 0 => none
      | depth + 1 =>
        match skipSpaces rest with
        | '\x7d' :: rest => some (.table .braces [], rest)
        | _ => readMembers fuel depth [] rest
    | 't' :: 'r' :: 'u' :: 'e' :: rest => some (.boolean true, rest)
    | 'f' :: 'a' :: 'l' :: 's' :: 'e' :: rest => some (.boolean false, rest)
    | text => readNumber text

/-- Reads the items of an array up to its end, onto the reversed items read so far. A comma may
stand behind the last one. -/
def readItems : (fuel depth : Nat) → List Value → List Char → Option (Value × List Char)
  | 0, _, _, _ => none
  | fuel + 1, depth, read, text => do
    match ← skipLines (text.length + 1) text with
    | ']' :: rest => some (.array read.reverse, rest)
    | start =>
      let (value, rest) ← readValue fuel depth start
      match ← skipLines (rest.length + 1) rest with
      | ',' :: rest => readItems fuel depth (value :: read) rest
      | ']' :: rest => some (.array (value :: read).reverse, rest)
      | _ => none

/-- Reads the members of a table in braces up to its end. No comma stands behind the last one, and
no line breaks between them. -/
def readMembers : (fuel depth : Nat) → Members → List Char → Option (Value × List Char)
  | 0, _, _, _ => none
  | fuel + 1, depth, members, text => do
    let ((path, key), rest) ← readKey text
    let (value, rest) ← readValue fuel depth (skipSpaces (← expect '=' rest))
    let members ← members.insert? key value path
    match skipSpaces rest with
    | ',' :: rest => readMembers fuel depth members rest
    | '\x7d' :: rest => some (.table .braces members, rest)
    | _ => none

end

/-- Reads one line onto a draft: a header, the header of an array of tables, or a member. -/
def readLine (draft : Draft) (text : List Char) : Option (Draft × List Char) := do
  match text with
  | '[' :: '[' :: rest =>
    let ((path, key), rest) ← readKey rest
    let rest ← takeLineEnd (← expect ']' (← expect ']' rest))
    some (← draft.openArray? path key, rest)
  | '[' :: rest =>
    let ((path, key), rest) ← readKey rest
    let rest ← takeLineEnd (← expect ']' rest)
    some (← draft.openTable? path key, rest)
  | text =>
    let ((path, key), rest) ← readKey text
    let start := skipSpaces (← expect '=' rest)
    let (value, rest) ← readValue (2 * start.length + 2) (depthLimit - 1) start
    let rest ← takeLineEnd rest
    some (← draft.insert? path key value, rest)

/-- Reads the lines of a document onto a draft. -/
def readLines : (fuel : Nat) → Draft → List Char → Option Members
  | 0, _, _ => none
  | fuel + 1, draft, text => do
    match ← skipLines (text.length + 1) text with
    | [] => draft.finish?
    | start =>
      let (draft, rest) ← readLine draft start
      readLines fuel draft rest

/-- The members of a document. A byte order mark may stand in front. -/
def read? (text : String) : Option Members :=
  let text := match text.toList with
    | '\ufeff' :: rest => rest
    | text => text
  readLines (text.length + 1) {} text

end HybridTx.Toml
