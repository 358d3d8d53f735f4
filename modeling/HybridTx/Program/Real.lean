import HybridTx.Text.Octets

/-! Numbers with fractions, read as the nearest ones of 64 bits and written with a given number of
digits, rounded to the nearest and to an even digit when in doubt. -/

namespace HybridTx.Program

/-- A number: `numerator / denominator`, and its sign. -/
structure Real where
  negative : Bool
  numerator : Nat
  denominator : Nat

namespace Real

/-- The exact value of a number of 64 bits that is finite and not negative. -/
def ofFloat (value : Float) (negative : Bool) : Real :=
  let bits := value.toBits.toNat % 2 ^ 63
  let exponent := bits / 2 ^ 52
  let fraction := bits % 2 ^ 52
  let mantissa := if exponent = 0 then fraction else fraction + 2 ^ 52
  let scale := max exponent 1
  if scale ≥ 1075 then ⟨negative, mantissa * 2 ^ (scale - 1075), 1⟩
  else ⟨negative, mantissa, 2 ^ (1075 - scale)⟩

/-- The value of a decimal number: its digits and the power of ten behind them. -/
def ofDecimal (negative : Bool) (digits : Nat) (exponent : Int) : Real :=
  let bounded := max (-400) (min 400 exponent)
  let value := if bounded < 0 then Float.ofScientific digits true bounded.natAbs
    else Float.ofScientific digits false bounded.natAbs
  ofFloat value negative

/-- The quotient rounded to the nearest whole number. -/
def roundQuotient (numerator denominator : Nat) : Nat :=
  let whole := numerator / denominator
  let rest := numerator % denominator
  if 2 * rest > denominator ∨ (2 * rest = denominator ∧ whole % 2 = 1) then whole + 1 else whole

/-- The value times a power of ten, rounded. -/
def scaled (value : Real) (power : Int) : Nat :=
  if power < 0 then roundQuotient value.numerator (value.denominator * 10 ^ power.natAbs)
  else roundQuotient (value.numerator * 10 ^ power.natAbs) value.denominator

/-- Digits, at least as many as a width. -/
def padDigits (width n : Nat) : String :=
  let digits := toString n
  String.ofList (List.replicate (width - digits.length) '0') ++ digits

/-- The value with a number of digits behind the point. -/
def fixed (value : Real) (places : Nat) : String :=
  let n := value.scaled places
  if places = 0 then toString n
  else toString (n / 10 ^ places) ++ "." ++ padDigits places (n % 10 ^ places)

/-- The power of ten of the first digit, found by counting digits. -/
def magnitude (value : Real) : Int :=
  if value.numerator = 0 then 0
  else
    let guess : Int := ((toString value.numerator).length : Int)
      - ((toString value.denominator).length : Int)
    let below (power : Int) : Bool :=
      if power < 0 then value.numerator * 10 ^ power.natAbs < value.denominator
      else value.numerator < value.denominator * 10 ^ power.natAbs
    if below guess then guess - 1 else guess

/-- The first digits, one more than `places`, and the power of ten of the first. -/
def leading (value : Real) (places : Nat) : Nat × Int :=
  let power := value.magnitude
  let n := value.scaled (places - power)
  if n ≥ 10 ^ (places + 1) then (10 ^ places, power + 1) else (n, power)

/-- An exponent. -/
def exponentText (power : Int) (mark : String) : String :=
  mark ++ (if power < 0 then "-" else "+") ++ padDigits 2 power.natAbs

/-- The value with one digit before the point and a power of ten. -/
def scientific (value : Real) (places : Nat) (mark : String) : String :=
  let (n, power) := value.leading places
  let body := if places = 0 then toString n
    else toString (n / 10 ^ places) ++ "." ++ padDigits places (n % 10 ^ places)
  body ++ exponentText power mark

/-- Drops zeros behind a point, and the point if nothing is left behind it. -/
def trimZeros (text : String) : String :=
  if text.contains '.' then
    let kept := text.toList.reverse.dropWhile (· = '0')
    let kept := match kept with
      | '.' :: rest => rest
      | kept => kept
    String.ofList kept.reverse
  else text

/-- The value with a number of digits that count, in whichever form is shorter. -/
def general (value : Real) (digits : Nat) (mark : String) (keepZeros : Bool) : String :=
  let digits := max digits 1
  let power := if value.numerator = 0 then 0 else (value.leading (digits - 1)).2
  let trim (text : String) : String := if keepZeros then text else trimZeros text
  if -4 ≤ power ∧ power < digits then trim (value.fixed ((digits : Int) - 1 - power).toNat)
  else
    let (n, power) := value.leading (digits - 1)
    let body := if digits = 1 then toString n
      else toString (n / 10 ^ (digits - 1)) ++ "." ++ padDigits (digits - 1) (n % 10 ^ (digits - 1))
    trim body ++ exponentText power mark

/-- Reads a decimal number at the front of a text, and gives what follows it. -/
def read? (text : List Char) : Option (Real × List Char) :=
  let (negative, rest) := match text with
    | '-' :: rest => (true, rest)
    | '+' :: rest => (false, rest)
    | rest => (false, rest)
  let whole := rest.takeWhile Char.isDigit
  let rest := rest.drop whole.length
  let (fraction, rest) := match rest with
    | '.' :: behind =>
      let fraction := behind.takeWhile Char.isDigit
      if whole = [] ∧ fraction = [] then ([], rest) else (fraction, behind.drop fraction.length)
    | rest => ([], rest)
  if whole = [] ∧ fraction = [] then none
  else
    let (exponent, rest) : Int × List Char := match rest with
      | e :: behind =>
        if e = 'e' ∨ e = 'E' then
          let (minus, digits) := match behind with
            | '-' :: digits => (true, digits)
            | '+' :: digits => (false, digits)
            | digits => (false, digits)
          let digits' := digits.takeWhile Char.isDigit
          if digits' = [] then (0, rest)
          else
            let n : Int := (String.ofList digits').toNat?.getD 0
            (if minus then -n else n, digits.drop digits'.length)
        else (0, rest)
      | [] => (0, [])
    let digits := (String.ofList (whole ++ fraction)).toNat?.getD 0
    some (ofDecimal negative digits (exponent - fraction.length), rest)

end Real

end HybridTx.Program
