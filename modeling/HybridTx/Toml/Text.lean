import HybridTx.Text.Numeral

/-! Strings of configuration texts: in double quotes with escapes, in single quotes as they are, and
both over several lines. Each reader starts behind the opening quotes. -/

namespace HybridTx.Toml

/-- A control character other than the tab. -/
def isControl (c : Char) : Bool := (c.toNat < 32 && c != '\t') || c.toNat == 127

/-- Drops spaces and tabs. -/
def skipSpaces (text : List Char) : List Char := text.dropWhile fun c => c == ' ' || c == '\t'

/-- Takes one line break: a line feed, perhaps with a carriage return in front. -/
def takeBreak : List Char → Option (List Char)
  | '\n' :: rest => some rest
  | '\r' :: '\n' :: rest => some rest
  | _ => none

/-- Reads `count` hexadecimal digits as a character. Surrogates and numbers past the last code point
are no characters. -/
def readCode (count : Nat) (text : List Char) : Option (Char × List Char) :=
  let digits := text.take count
  let code := Text.digitsToNat 16 0 digits
  if digits.length = count ∧ digits.all (Text.isDigitOf 16) ∧ code.isValidChar then
    some (Char.ofNat code, text.drop count)
  else none

/-- Reads what follows a backslash. -/
def readEscape : List Char → Option (Char × List Char)
  | 'b' :: rest => some ('\x08', rest)
  | 't' :: rest => some ('\t', rest)
  | 'n' :: rest => some ('\n', rest)
  | 'f' :: rest => some ('\x0c', rest)
  | 'r' :: rest => some ('\r', rest)
  | '"' :: rest => some ('"', rest)
  | '\\' :: rest => some ('\\', rest)
  | 'u' :: rest => readCode 4 rest
  | 'U' :: rest => readCode 8 rest
  | _ => none

/-- Reads a string on one line in double quotes, onto the reversed characters read so far. -/
def readBasic : (fuel : Nat) → List Char → List Char → Option (String × List Char)
  | 0, _, _ | _, _, [] => none
  | _ + 1, read, '"' :: rest => some (String.ofList read.reverse, rest)
  | fuel + 1, read, '\\' :: rest => do
    let (c, rest) ← readEscape rest
    readBasic fuel (c :: read) rest
  | fuel + 1, read, c :: rest => if isControl c then none else readBasic fuel (c :: read) rest

/-- Reads a string on one line in single quotes. -/
def readLiteral (text : List Char) : Option (String × List Char) :=
  let body := text.takeWhile (· ≠ '\'')
  match text.drop body.length with
  | _ :: rest => if body.any isControl then none else some (String.ofList body, rest)
  | [] => none

/-- A run of at least three quotes ends a string over several lines. Up to two more belong to its
text; they stand first. -/
def closeQuotes (quote : Char) (read : List Char) (text : List Char) :
    Option (Option (String × List Char)) :=
  let run := (text.takeWhile (· == quote)).length
  if run < 3 then none
  else if run ≤ 5 then
    some (some (String.ofList (read.reverse ++ List.replicate (run - 3) quote), text.drop run))
  else some none

/-- Drops the blanks and line breaks behind a backslash at the end of a line; none if the line goes
on. -/
def takeContinuation (text : List Char) : Option (List Char) := do
  let rest ← takeBreak (skipSpaces text)
  some (blanks (rest.length + 1) rest)
where
  /-- Drops spaces, tabs and line breaks. -/
  blanks : (fuel : Nat) → List Char → List Char
    | 0, text => text
    | fuel + 1, text =>
      match takeBreak (skipSpaces text) with
      | some rest => blanks fuel rest
      | none => skipSpaces text

/-- Reads a string over several lines in double quotes, onto the reversed characters read so far. -/
def readBasicLines : (fuel : Nat) → List Char → List Char → Option (String × List Char)
  | 0, _, _ | _, _, [] => none
  | fuel + 1, read, '\\' :: rest =>
    match takeContinuation rest with
    | some rest => readBasicLines fuel read rest
    | none => do
      let (c, rest) ← readEscape rest
      readBasicLines fuel (c :: read) rest
  | fuel + 1, read, c :: rest =>
    match closeQuotes '"' read (c :: rest), takeBreak (c :: rest) with
    | some closed, _ => closed
    | none, some rest => readBasicLines fuel ('\n' :: read) rest
    | none, none => if isControl c then none else readBasicLines fuel (c :: read) rest

/-- Reads a string over several lines in single quotes, onto the reversed characters read so far. -/
def readLiteralLines : (fuel : Nat) → List Char → List Char → Option (String × List Char)
  | 0, _, _ | _, _, [] => none
  | fuel + 1, read, c :: rest =>
    match closeQuotes '\'' read (c :: rest), takeBreak (c :: rest) with
    | some closed, _ => closed
    | none, some rest => readLiteralLines fuel ('\n' :: read) rest
    | none, none => if isControl c then none else readLiteralLines fuel (c :: read) rest

/-- Drops the line break directly behind the opening quotes of a string over several lines. -/
def dropFirstBreak (text : List Char) : List Char := (takeBreak text).getD text

/-- Reads a string of any kind. -/
def readString (text : List Char) : Option (String × List Char) :=
  let fuel := text.length + 1
  match text with
  | '"' :: '"' :: '"' :: rest => readBasicLines fuel [] (dropFirstBreak rest)
  | '\'' :: '\'' :: '\'' :: rest => readLiteralLines fuel [] (dropFirstBreak rest)
  | '"' :: rest => readBasic fuel [] rest
  | '\'' :: rest => readLiteral rest
  | _ => none

end HybridTx.Toml
