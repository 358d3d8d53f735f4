import HybridTx.Json.Value

/-! Reading JSON text. -/

namespace HybridTx.Json

/-- Drops the blanks that may stand between tokens. -/
def skipBlanks (text : List Char) : List Char :=
  text.dropWhile fun c => c == ' ' || c == '\n' || c == '\r' || c == '\t'

/-- The value of a hexadecimal digit. -/
def hexValue? (c : Char) : Option Nat :=
  if '0' ≤ c ∧ c ≤ '9' then some (c.toNat - 48)
  else if 'a' ≤ c ∧ c ≤ 'f' then some (c.toNat - 87)
  else if 'A' ≤ c ∧ c ≤ 'F' then some (c.toNat - 55)
  else none

/-- Reads four hexadecimal digits. -/
def readCode : List Char → Option (Nat × List Char)
  | a :: b :: c :: d :: rest => do
    let a ← hexValue? a
    let b ← hexValue? b
    let c ← hexValue? c
    let d ← hexValue? d
    some (((a * 16 + b) * 16 + c) * 16 + d, rest)
  | _ => none

/-- The first half of a surrogate pair. -/
def isHighSurrogate (code : Nat) : Bool := 0xd800 ≤ code && code < 0xdc00

/-- The second half of a surrogate pair. -/
def isLowSurrogate (code : Nat) : Bool := 0xdc00 ≤ code && code < 0xe000

/-- Reads what follows `\u`: a code, or a pair of codes that make one character. Half a pair gives
no character. -/
def readCodeEscape (text : List Char) : Option (Option Char × List Char) := do
  let (code, rest) ← readCode text
  if isHighSurrogate code then
    match rest with
    | '\\' :: 'u' :: second =>
      let (low, rest') ← readCode second
      if isLowSurrogate low then
        some (some (Char.ofNat (0x10000 + (code - 0xd800) * 0x400 + (low - 0xdc00))), rest')
      else some (none, rest)
    | _ => some (none, rest)
  else if isLowSurrogate code then some (none, rest)
  else some (some (Char.ofNat code), rest)

/-- The character for a letter behind a backslash. -/
def plainEscape? : Char → Option Char
  | '"' => some '"'
  | '\\' => some '\\'
  | '/' => some '/'
  | 'b' => some '\x08'
  | 'f' => some '\x0c'
  | 'n' => some '\n'
  | 'r' => some '\r'
  | 't' => some '\t'
  | _ => none

/-- Reads a string after its opening quote, onto the reversed characters read so far. Each step
takes at least one character, so a bound of the text's length is never reached. -/
def readString : (bound : Nat) → Option (List Char) → List Char →
    Option (Option String × List Char)
  | _, _, [] => none
  | 0, _, _ => none
  | bound + 1, read, c :: rest =>
    if c = '"' then some (read.map fun cs => String.ofList cs.reverse, rest)
    else if c.toNat < 32 then none
    else if c = '\\' then
      match rest with
      | 'u' :: rest => do
        let (character, rest) ← readCodeEscape rest
        readString bound (do (← character) :: (← read)) rest
      | letter :: rest => do
        let character ← plainEscape? letter
        readString bound (read.map (character :: ·)) rest
      | [] => none
    else readString bound (read.map (c :: ·)) rest

/-- Reads one or more decimal digits. -/
def readDigits (text : List Char) : Option (List Char × List Char) :=
  let digits := text.takeWhile Char.isDigit
  if digits.isEmpty then none else some (digits, text.dropWhile Char.isDigit)

/-- Reads the whole part of a number: zero, or digits that do not start with zero. -/
def readWhole : List Char → Option (List Char × List Char)
  | '0' :: rest => if (rest.head?.any Char.isDigit) then none else some (['0'], rest)
  | text => readDigits text

/-- Reads the digits behind a point, if there is one. -/
def readFraction : List Char → Option (List Char × List Char)
  | '.' :: rest => do
    let (digits, rest) ← readDigits rest
    some ('.' :: digits, rest)
  | text => some ([], text)

/-- Reads an exponent, if there is one. -/
def readExponent : List Char → Option (List Char × List Char)
  | e :: rest =>
    if e = 'e' ∨ e = 'E' then
      let (sign, rest) := match rest with
        | '+' :: rest => (['+'], rest)
        | '-' :: rest => (['-'], rest)
        | rest => ([], rest)
      do
        let (digits, rest) ← readDigits rest
        some (e :: sign ++ digits, rest)
    else some ([], e :: rest)
  | [] => some ([], [])

/-- Reads a number without a sign. -/
def readUnsigned (text : List Char) : Option (List Char × List Char) := do
  let (whole, rest) ← readWhole text
  let (fraction, rest) ← readFraction rest
  let (exponent, rest) ← readExponent rest
  some (whole ++ fraction ++ exponent, rest)

/-- Reads a number. -/
def readNumber : List Char → Option (List Char × List Char)
  | '-' :: rest => do
    let (digits, rest) ← readUnsigned rest
    some ('-' :: digits, rest)
  | text => readUnsigned text

/-- Takes a given text off the front. -/
def expect (word text : List Char) : Option (List Char) :=
  if word.isPrefixOf text then some (text.drop word.length) else none

mutual

/-- Reads a value. The bound limits nesting and length together; the text's length is enough. -/
def readValue : (bound : Nat) → List Char → Option (Json × List Char)
  | 0, _ => none
  | bound + 1, text =>
    match skipBlanks text with
    | 'n' :: rest => (expect ['u', 'l', 'l'] rest).map (.null, ·)
    | 't' :: rest => (expect ['r', 'u', 'e'] rest).map (.bool true, ·)
    | 'f' :: rest => (expect ['a', 'l', 's', 'e'] rest).map (.bool false, ·)
    | '"' :: rest => (readString rest.length (some []) rest).map fun (s, rest) => (.string s, rest)
    | '[' :: rest =>
      match skipBlanks rest with
      | ']' :: rest => some (.array [], rest)
      | _ => (readItems bound rest []).map fun (items, rest) => (.array items, rest)
    | '\x7b' :: rest =>
      match skipBlanks rest with
      | '\x7d' :: rest => some (.object [], rest)
      | _ => (readMembers bound rest []).map fun (members, rest) => (.object members, rest)
    | text => (readNumber text).map fun (digits, rest) => (.number digits, rest)

/-- Reads the items of an array and its closing bracket, onto the reversed items read so far. -/
def readItems : (bound : Nat) → List Char → List Json → Option (List Json × List Char)
  | 0, _, _ => none
  | bound + 1, text, read => do
    let (item, rest) ← readValue bound text
    match skipBlanks rest with
    | ',' :: rest => readItems bound rest (item :: read)
    | ']' :: rest => some ((item :: read).reverse, rest)
    | _ => none

/-- Reads the members of an object and its closing brace, onto the reversed members read so far. -/
def readMembers : (bound : Nat) → List Char → List (Option String × Json) →
    Option (List (Option String × Json) × List Char)
  | 0, _, _ => none
  | bound + 1, text, read =>
    match skipBlanks text with
    | '"' :: rest => do
      let (name, rest) ← readString rest.length (some []) rest
      let rest ← expect [':'] (skipBlanks rest)
      let (value, rest) ← readValue bound rest
      match skipBlanks rest with
      | ',' :: rest => readMembers bound rest ((name, value) :: read)
      | '\x7d' :: rest => some (((name, value) :: read).reverse, rest)
      | _ => none
    | _ => none

end

/-- Reads a text that holds one value and nothing else. -/
def read? (text : String) : Option Json :=
  let chars := text.toList
  match readValue (chars.length + 1) chars with
  | some (value, rest) => if (skipBlanks rest).isEmpty then some value else none
  | none => none

end HybridTx.Json
