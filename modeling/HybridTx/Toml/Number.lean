import HybridTx.Text.Numeral

/-! Numbers and dates of configuration texts. Each reader takes the longest text of its kind. -/

namespace HybridTx.Toml

/-- Reads digits of a base with single underscores between them. -/
def readDigits (base : Nat) : List Char → Option (List Char × List Char)
  | c :: rest => if Text.isDigitOf base c then some (more [c] rest) else none
  | [] => none
where
  /-- Goes on behind a digit, onto the reversed digits read so far. -/
  more (read : List Char) : List Char → List Char × List Char
    | '_' :: c :: rest =>
      if Text.isDigitOf base c then more (c :: read) rest else (read.reverse, '_' :: c :: rest)
    | c :: rest =>
      if Text.isDigitOf base c then more (c :: read) rest else (read.reverse, c :: rest)
    | [] => (read.reverse, [])

/-- Reads a sign, if there is one; true is negative. -/
def readSign : List Char → Bool × List Char
  | '-' :: rest => (true, rest)
  | '+' :: rest => (false, rest)
  | text => (false, text)

/-- Reads decimal digits of which only a lone one may be zero at the front. -/
def readWhole : List Char → Option (List Char × List Char)
  | '0' :: rest => some (['0'], rest)
  | text => readDigits 10 text

/-- The bounds of an integer. -/
def integerBound : Nat := 2 ^ 63

/-- An integer within bounds. -/
def integerOf? (negative : Bool) (digits : List Char) (base : Nat) : Option Int :=
  let value := Text.digitsToNat base 0 digits
  if negative then if value ≤ integerBound then some (-(value : Int)) else none
  else if value < integerBound then some value else none

/-- Reads an integer. Only decimal ones have a sign. -/
def readInteger (text : List Char) : Option (Int × List Char) :=
  let based (base : Nat) (rest : List Char) : Option (Int × List Char) := do
    let (digits, rest) ← readDigits base rest
    some (← integerOf? false digits base, rest)
  match text with
  | '0' :: 'x' :: rest => based 16 rest
  | '0' :: 'o' :: rest => based 8 rest
  | '0' :: 'b' :: rest => based 2 rest
  | text => do
    let (negative, rest) := readSign text
    let (digits, rest) ← readWhole rest
    some (← integerOf? negative digits 10, rest)

/-- The least number that is too large for a binary fraction of 64 bits. -/
def fractionBound : Nat := 2 ^ 1024 - 2 ^ 970

/-- The number `mantissa · 10 ^ exponent` is too large. -/
def isTooLarge (mantissa : Nat) (exponent : Int) : Bool :=
  if mantissa = 0 then false
  else if exponent ≥ 310 then true
  else if exponent ≥ 0 then mantissa * 10 ^ exponent.toNat ≥ fractionBound
  else if (Nat.toDigits 10 mantissa).length < (-exponent).toNat then false
  else mantissa ≥ fractionBound * 10 ^ (-exponent).toNat

/-- Reads the exponent of a fraction. -/
def readExponent : List Char → Option (Int × List Char)
  | 'e' :: rest | 'E' :: rest => do
    let (negative, rest) := readSign rest
    let (digits, rest) ← readDigits 10 rest
    let value := Text.digitsToNat 10 0 digits
    some (if negative then -(value : Int) else value, rest)
  | _ => none

/-- Reads a fraction: a number with decimal places, an exponent or both. A positive one that is too
large is refused. -/
def readFraction (text : List Char) : Option (List Char) := do
  let (negative, unsigned) := readSign text
  match unsigned with
  | 'i' :: 'n' :: 'f' :: rest | 'n' :: 'a' :: 'n' :: rest => some rest
  | _ =>
    let (whole, rest) ← readWhole unsigned
    let (places, rest') ← match rest with
      | '.' :: rest => readDigits 10 rest
      | _ => some ([], rest)
    let (exponent, rest'') ← match readExponent rest' with
      | some (exponent, rest) => some (some exponent, rest)
      | none => some (none, rest')
    if places = [] ∧ exponent = none then none
    else
      let mantissa := Text.digitsToNat 10 (Text.digitsToNat 10 0 whole) places
      if ¬negative ∧ isTooLarge mantissa (exponent.getD 0 - places.length) then none
      else some rest''

/-- Reads exactly `count` decimal digits. -/
def readFixed (count : Nat) (text : List Char) : Option (Nat × List Char) :=
  let digits := text.take count
  if digits.length = count ∧ digits.all Char.isDigit then
    some (Text.digitsToNat 10 0 digits, text.drop count)
  else none

/-- Takes one character. -/
def expect (c : Char) : List Char → Option (List Char)
  | d :: rest => if c = d then some rest else none
  | [] => none

/-- The days of a month. -/
def daysOf (year month : Nat) : Nat :=
  if month = 2 then
    if (year % 4 = 0 ∧ year % 100 ≠ 0) ∨ year % 400 = 0 then 29 else 28
  else if month ∈ [4, 6, 9, 11] then 30 else 31

/-- Reads a date. -/
def readDate (text : List Char) : Option (List Char) := do
  let (year, rest) ← readFixed 4 text
  let (month, rest) ← readFixed 2 (← expect '-' rest)
  let (day, rest) ← readFixed 2 (← expect '-' rest)
  if 1 ≤ month ∧ month ≤ 12 ∧ 1 ≤ day ∧ day ≤ daysOf year month then some rest else none

/-- Reads hours and minutes. -/
def readClock (text : List Char) : Option (List Char) := do
  let (hour, rest) ← readFixed 2 text
  let (minute, rest) ← readFixed 2 (← expect ':' rest)
  if hour ≤ 23 ∧ minute ≤ 59 then some rest else none

/-- Reads a time of day, in which a minute may have a leap second. -/
def readTime (text : List Char) : Option (List Char) := do
  let rest ← readClock text
  let (second, rest) ← readFixed 2 (← expect ':' rest)
  if second > 60 then none
  else match rest with
    | '.' :: c :: rest =>
      if c.isDigit then some (rest.dropWhile Char.isDigit) else some ('.' :: c :: rest)
    | rest => some rest

/-- Reads the distance from universal time, if there is one. -/
def readZone (text : List Char) : Option (List Char) :=
  match text with
  | 'Z' :: rest | 'z' :: rest => some rest
  | '+' :: rest | '-' :: rest => readClock rest
  | text => some text

/-- Reads a date, a time of day, or both. -/
def readMoment (text : List Char) : Option (List Char) :=
  match readDate text with
  | some rest =>
    match rest with
    | 'T' :: time | 't' :: time => do readZone (← readTime time)
    | ' ' :: hour :: time =>
      if hour.isDigit then do readZone (← readTime (hour :: time)) else some rest
    | rest => some rest
  | none => readTime text

end HybridTx.Toml
