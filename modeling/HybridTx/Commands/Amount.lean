import HybridTx.Text.Blank
import HybridTx.Text.Numeral

/-! Numbers on the command line: amounts of any size, in decimal or hexadecimal digits, and words of
64 bits in decimal digits. -/

namespace HybridTx

namespace Amount

/-- Why a text is no number. -/
inductive Error
  | empty
  | invalidDigit
deriving DecidableEq, Repr

/-- The wording of an error. -/
def Error.message : Error → String
  | empty => "cannot parse integer from empty string"
  | invalidDigit => "invalid digit found in string"

/-- Drops one plus sign that no other follows. -/
def dropPlus : List Char → List Char
  | '+' :: '+' :: rest => '+' :: '+' :: rest
  | '+' :: rest => rest
  | text => text

/-- Reads digits of a base. Underscores may stand anywhere but first. -/
def readDigits (base : Nat) (text : List Char) : Except Error Nat :=
  match dropPlus text with
  | [] => .error .empty
  | '_' :: _ => .error .invalidDigit
  | digits =>
    if digits.all fun c => c == '_' || Text.isDigitOf base c then
      .ok (Text.digitsToNat base 0 digits)
    else .error .invalidDigit

/-- Reads a text without blanks around it: hexadecimal digits behind `0x`, where no digits are zero,
or decimal digits. -/
def readTrimmed : List Char → Except Error Nat
  | ['0', 'x'] => .ok 0
  | '0' :: 'x' :: digits => readDigits 16 digits
  | text => readDigits 10 text

end Amount

/-- Reads a word of 64 bits in decimal digits, perhaps after one plus sign. -/
def readWord? (text : String) : Option UInt64 :=
  let digits := match text.toList with
    | '+' :: digits => digits
    | digits => digits
  if digits ≠ [] ∧ digits.all Char.isDigit then
    let value := Text.digitsToNat 10 0 digits
    if value < 2 ^ 64 then some (UInt64.ofNat value) else none
  else none

end HybridTx
