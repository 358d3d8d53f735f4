/-! Digits, and the numbers that they spell. -/

namespace HybridTx.Text

/-- The value of a digit in a given base. Letters of either case follow the decimal digits. -/
def digitValue? (base : Nat) (c : Char) : Option Nat :=
  let value? :=
    if '0' ≤ c ∧ c ≤ '9' then some (c.toNat - 48)
    else if 'a' ≤ c ∧ c ≤ 'z' then some (c.toNat - 87)
    else if 'A' ≤ c ∧ c ≤ 'Z' then some (c.toNat - 55)
    else none
  value?.filter (· < base)

/-- A digit in a given base. -/
def isDigitOf (base : Nat) (c : Char) : Bool := (digitValue? base c).isSome

/-- The number behind the digits of `value`. What is no digit does not count. -/
def digitsToNat (base : Nat) (value : Nat) (digits : List Char) : Nat :=
  digits.foldl (fun value c => match digitValue? base c with
    | some digit => value * base + digit
    | none => value) value

end HybridTx.Text
