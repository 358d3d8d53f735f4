import HybridTx.Script.Reader.Word
import HybridTx.Text.Numeral

/-! Sums: expressions over integers of 64 bits, which read and set variables. -/

namespace HybridTx.Script.Arithmetic

/-- What can be wrong with an expression. -/
inductive Problem
  | wantsOperand
  | wantsEnd
  | wantsBracket
  | wantsColon
  | zeroDivision
  | notNumber (text : Octets)
deriving DecidableEq, Repr

/-- The wording of a problem with an expression. -/
def Problem.message (expression : Octets) : Problem → String
  | wantsOperand => sum "expecting primary"
  | wantsEnd => sum "expecting EOF"
  | wantsBracket => sum "expecting ')'"
  | wantsColon => sum "expecting ':'"
  | zeroDivision => sum "division by zero"
  | notNumber text => "Illegal number: " ++ text
where
  /-- A problem with the whole expression. -/
  sum (problem : String) : String :=
    "arithmetic expression: " ++ problem ++ ": \"" ++ expression ++ "\""

/-- A unit of an expression. -/
inductive Unit
  | number (value : Int64)
  | name (name : String)
  | operator (spelling : String)
  | unknown
deriving DecidableEq

/-- The operators, longer ones before those that they begin with. -/
def operators : List String :=
  ["<<=", ">>=", "<<", ">>", "<=", ">=", "==", "!=", "&&", "||", "+=", "-=", "*=", "/=", "%=", "&=",
    "|=", "^=", "<", ">", "=", "!", "&", "|", "+", "-", "*", "/", "%", "^", "~", "?", ":", "(", ")"]

/-- The greatest number. -/
def greatest : Nat := 2 ^ 63 - 1

/-- The number at the front of a text: decimal, or marked as hexadecimal, octal or binary. -/
def readNumber (text : List Char) : Nat × List Char :=
  let digits (base : Nat) (text : List Char) : Nat × List Char :=
    let digits := text.takeWhile (Text.isDigitOf base)
    (Text.digitsToNat base 0 digits, text.drop digits.length)
  let marked (base : Nat) (behind : List Char) : Nat × List Char :=
    if (behind.head?.map (Text.isDigitOf base)).getD false then digits base behind
    else (0, text.drop 1)
  match text with
  | '0' :: 'x' :: behind | '0' :: 'X' :: behind => marked 16 behind
  | '0' :: 'b' :: behind | '0' :: 'B' :: behind => marked 2 behind
  | '0' :: _ => digits 8 text
  | _ => digits 10 text

/-- The units of an expression. Nothing is read behind one that is unknown. -/
def units : (fuel : Nat) → List Char → List Unit
  | 0, _ | _, [] => []
  | fuel + 1, c :: rest =>
    if c ∈ [' ', '\t', '\n'] then units fuel rest
    else if c.isDigit then
      let (value, rest) := readNumber (c :: rest)
      .number (Int64.ofNat (min value greatest)) :: units fuel rest
    else if isNameStart c then
      let name := (c :: rest).takeWhile isNameRest
      .name (String.ofList name) :: units fuel ((c :: rest).drop name.length)
    else
      match operators.find? fun spelling => spelling.toList.isPrefixOf (c :: rest) with
      | some spelling => .operator spelling :: units fuel ((c :: rest).drop spelling.length)
      | none => [.unknown]

/-- The number that a variable holds; blanks around it do not count, and nothing is zero. -/
def valueOf (text : Octets) : Except Problem Int64 :=
  let start := text.toList.dropWhile (kindBlank ·)
  let (negative, digits) := match start with
    | '-' :: digits => (true, digits)
    | '+' :: digits => (false, digits)
    | digits => (false, digits)
  let (value, rest) :=
    if (digits.head?.map Char.isDigit).getD false then readNumber digits else (0, text.toList)
  if rest.all (kindBlank ·) ∧ value ≤ greatest + (if negative then 1 else 0) then
    .ok (if negative then -Int64.ofNat value else Int64.ofNat value)
  else .error (.notNumber text)
where
  /-- A blank of any sort. -/
  kindBlank (c : Char) : Bool := c == ' ' || (9 ≤ c.toNat && c.toNat ≤ 13)

/-- What is left of an expression, and the variables that were set. -/
structure Progress where
  rest : List Unit
  assigned : List (String × Octets) := []

/-- A part of an evaluation. -/
abbrev Step := StateT Progress (Except Problem)

/-- How tight an operator between two operands binds; the least number binds tightest. -/
def rank? (spelling : String) : Option Nat :=
  match spelling with
  | "*" | "/" | "%" => some 0
  | "+" | "-" => some 1
  | "<<" | ">>" => some 2
  | "<" | "<=" | ">" | ">=" => some 3
  | "==" | "!=" => some 4
  | "&" => some 5
  | "^" => some 6
  | "|" => some 7
  | _ => none

/-- The number of a truth. -/
def truth (holds : Bool) : Int64 := if holds then 1 else 0

/-- Applies an operator. Shifts take their amount modulo 64. -/
def apply (spelling : String) (a b : Int64) : Except Problem Int64 :=
  match spelling with
  | "*" => .ok (a * b)
  | "/" => if b = 0 then .error .zeroDivision else .ok (a / b)
  | "%" => if b = 0 then .error .zeroDivision else .ok (a % b)
  | "+" => .ok (a + b)
  | "-" => .ok (a - b)
  | "<<" => .ok (a <<< (b &&& 63))
  | ">>" => .ok (a >>> (b &&& 63))
  | "<" => .ok (truth (a < b))
  | "<=" => .ok (truth (a ≤ b))
  | ">" => .ok (truth (b < a))
  | ">=" => .ok (truth (b ≤ a))
  | "==" => .ok (truth (a == b))
  | "!=" => .ok (truth (a != b))
  | "&" => .ok (a &&& b)
  | "^" => .ok (a ^^^ b)
  | _ => .ok (a ||| b)

/-- The operator in front of the rest. -/
def next? (progress : Progress) : Option String :=
  match progress.rest with
  | .operator spelling :: _ => some spelling
  | _ => none

/-- Drops a unit. -/
def advance : Step PUnit := modify fun progress => { progress with rest := progress.rest.drop 1 }

/-- Takes an operator if it is next. -/
def takeOperator (spelling : String) : Step Bool := do
  if next? (← get) = some spelling then
    advance
    pure true
  else pure false

variable (lookup : String → Octets)

/-- The number in a variable. -/
def variableValue (name : String) : Step Int64 := do
  match (← get).assigned.lookup name with
  | some text => liftM (valueOf text)
  | none => liftM (valueOf (lookup name))

/-- Sets a variable. -/
def assign (name : String) (value : Int64) : Step PUnit :=
  modify fun progress =>
    { progress with assigned := (name, toString value) :: progress.assigned }

mutual

/-- A number, a variable, an expression in brackets, or a sign before one of these. What is passed
over is read but has no effect. -/
def operand : (fuel : Nat) → (passed : Bool) → Step Int64
  | 0, _ => throw .wantsOperand
  | fuel + 1, passed => do
    match (← get).rest with
    | .number value :: _ => do
      advance
      pure value
    | .name name :: _ => do
      advance
      if passed then pure 0 else variableValue lookup name
    | .operator "(" :: _ => do
      advance
      let value ← assignment fuel passed
      if ← takeOperator ")" then pure value else throw .wantsBracket
    | .operator "+" :: _ => do
      advance
      operand fuel passed
    | .operator "-" :: _ => do
      advance
      return -(← operand fuel passed)
    | .operator "!" :: _ => do
      advance
      return truth ((← operand fuel passed) == 0)
    | .operator "~" :: _ => do
      advance
      return ~~~(← operand fuel passed)
    | _ => throw .wantsOperand

/-- Goes on with operators that bind tighter than `limit`, from the left. -/
def operations : (fuel : Nat) → (limit : Nat) → (passed : Bool) → Int64 → Step Int64
  | 0, _, _, a => pure a
  | fuel + 1, limit, passed, a => do
    match next? (← get) with
    | some spelling =>
      match rank? spelling with
      | some rank =>
        if rank < limit then
          advance
          let b ← operations fuel rank passed (← operand fuel passed)
          let value ← if passed then pure b else liftM (apply spelling a b)
          operations fuel limit passed value
        else pure a
      | none => pure a
    | none => pure a

/-- Operands that must all hold. -/
def conjunction : (fuel : Nat) → (passed : Bool) → Step Int64
  | 0, _ => throw .wantsOperand
  | fuel + 1, passed => do
    let a ← operations fuel 8 passed (← operand fuel passed)
    if ← takeOperator "&&" then
      let b ← conjunction fuel (passed || a == 0)
      pure (truth (a != 0 && b != 0))
    else pure a

/-- Operands of which one must hold. -/
def disjunction : (fuel : Nat) → (passed : Bool) → Step Int64
  | 0, _ => throw .wantsOperand
  | fuel + 1, passed => do
    let a ← conjunction fuel passed
    if ← takeOperator "||" then
      let b ← disjunction fuel (passed || a != 0)
      pure (truth (a != 0 || b != 0))
    else pure a

/-- A choice between two values. -/
def choice : (fuel : Nat) → (passed : Bool) → Step Int64
  | 0, _ => throw .wantsOperand
  | fuel + 1, passed => do
    let a ← disjunction fuel passed
    if ← takeOperator "?" then
      let b ← assignment fuel (passed || a == 0)
      if !(← takeOperator ":") then throw .wantsColon
      let c ← choice fuel (passed || a != 0)
      pure (if a != 0 then b else c)
    else pure a

/-- A value, perhaps put into a variable. -/
def assignment : (fuel : Nat) → (passed : Bool) → Step Int64
  | 0, _ => throw .wantsOperand
  | fuel + 1, passed => do
    match (← get).rest with
    | .name name :: .operator spelling :: _ =>
      let simple := spelling == "="
      let compound := spelling.endsWith "=" && spelling ∉ ["==", "!=", "<=", ">="]
      if simple || compound then
        advance
        advance
        let result ← assignment fuel passed
        if passed then pure result
        else
          let operator := (spelling.dropEnd 1).toString
          let value ← if simple then pure result
            else do liftM (apply operator (← variableValue lookup name) result)
          assign name value
          pure value
      else choice fuel passed
    | _ => choice fuel passed

end

/-- The value of an expression and the variables that it sets, the last first. -/
def evaluate (expression : Octets) : Except Problem (Int64 × List (String × Octets)) := do
  let units := units (expression.length + 1) expression.toList
  let (value, progress) ← (assignment lookup (8 * units.length + 16) false).run { rest := units }
  if progress.rest = [] then .ok (value, progress.assigned) else .error .wantsEnd

end HybridTx.Script.Arithmetic
