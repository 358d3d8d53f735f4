import HybridTx.Program.Format
import HybridTx.Program.Basic
import HybridTx.Program.Regex

/-! Programs that calculate: sequences of numbers, and expressions. -/

namespace HybridTx.Program

variable {m : Type → Type} [Monad m]

/-! Sequences -/

/-- A number of a sequence: `value / 10 ^ places`. -/
structure Decimal where
  value : Int
  places : Nat

namespace Decimal

/-- Reads a number. -/
def read? (text : Octets) : Option Decimal :=
  let (negative, body) := match text.toList with
    | '-' :: rest => (true, rest)
    | '+' :: rest => (false, rest)
    | rest => (false, rest)
  let unsigned? : Option Decimal := match body with
    | '0' :: 'x' :: digits | '0' :: 'X' :: digits =>
      if digits ≠ [] ∧ digits.all (Text.isDigitOf 16) then
        some ⟨Text.digitsToNat 16 0 digits, 0⟩
      else none
    | body =>
      let (plain, exponent?) : List Char × Option Nat :=
        let plain := body.takeWhile fun c => c ≠ 'e' ∧ c ≠ 'E'
        match body.drop plain.length with
        | _ :: '+' :: digits => (plain, number? (String.ofList digits))
        | _ :: digits => (plain, number? (String.ofList digits))
        | [] => (plain, some 0)
      let whole := plain.takeWhile (· ≠ '.')
      let fraction := (plain.drop whole.length).drop 1
      match number? (String.ofList (whole ++ fraction)), exponent? with
      | some value, some exponent =>
        some ⟨(value * 10 ^ (exponent - fraction.length) : Nat), fraction.length - exponent⟩
      | _, _ => none
  unsigned?.map fun n => if negative then { n with value := -n.value } else n

/-- The number with a given count of places. -/
def scale (n : Decimal) (places : Nat) : Int := n.value * 10 ^ (places - n.places)

/-- A number of a count of places, at least as wide as told. -/
def write (value : Int) (places width : Nat) : Octets :=
  let n := value.natAbs
  let digits := if places = 0 then toString n
    else toString (n / 10 ^ places) ++ "." ++ Real.padDigits places (n % 10 ^ places)
  let sign := if value < 0 then "-" else ""
  sign ++ String.ofList (List.replicate (width - (sign.length + digits.length)) '0') ++ digits

end Decimal

/-- The numbers from a first one on, as long as they do not pass the last. -/
def stepsFrom (first step last : Int) : List Int :=
  let count := if step = 0 then 0
    else if (step > 0 ∧ last < first) ∨ (step < 0 ∧ first < last) then 0
    else ((last - first) / step).toNat + 1
  (List.range (min count 1000000)).map fun (k : Nat) => first + step * (k : Int)

/-- Writes a sequence of numbers. -/
def seq : Routine m := fun args => do
  let table : OptionTable :=
    { flags := ['w'], valued := ['s', 'f'], anywhere := false
      long := [("separator", 's'), ("equal-width", 'w'), ("format", 'f')] }
  let negative (arg : Octets) : Bool := match arg.toList with
    | '-' :: c :: _ => c.isDigit || c == '.'
    | _ => false
  let options := args.takeWhile fun arg => !negative arg
  let numbers := args.drop options.length
  withOptions table 1 options fun given => do
    let operands := given.operands ++ numbers
    match operands with
    | [] => refuseUsage "missing operand" 1
    | _ =>
    match operands.find? fun text => (Decimal.read? text).isNone with
    | some bad => refuseUsage ("invalid floating point argument: " ++ quote bad) 1
    | none =>
    match operands[3]? with
    | some extra => refuseUsage ("extra operand " ++ quote extra) 1
    | none => do
      let one : Decimal := ⟨1, 0⟩
      let (first, step, last) := match operands.filterMap Decimal.read? with
        | [last] => (one, one, last)
        | [first, last] => (first, one, last)
        | [first, step, last] => (first, step, last)
        | _ => (one, one, one)
      if step.value = 0 then
        return ← refuseUsage ("invalid Zero increment value: " ++ quote (operands.getD 1 "")) 1
      let places := max first.places step.places
      let all := max places last.places
      let values := stepsFrom (first.scale all) (step.scale all) (last.scale all)
      let values := values.map fun v => v / 10 ^ (all - places)
      let width := if given.has 'w' then
        let width (n : Int) := (Decimal.write n places 0).length
        max (width (first.scale places)) (width ((last.scale all) / 10 ^ (all - places)))
        else 0
      let shown := values.map fun value => match given.value? 'f' with
        | some format =>
          let text := Decimal.write value places 0
          let printed := Format.print ⟨.program, format.toList⟩ [text]
          String.join ((printed.written.reverse.filter (·.1 = 1)).map (·.2))
        | none => Decimal.write value places width
      if shown ≠ [] then put (((given.value? 's').getD "\n").intercalate shown ++ "\n")
      pure 0

/-! Expressions -/

namespace Expression

/-- Reading an expression. -/
abbrev Step := StateT (List Octets) (Except Octets)

/-- The text as a whole number. -/
def integer? (text : Octets) : Option Int :=
  match text.toList with
  | '-' :: digits => (number? (String.ofList digits)).map fun n => -(n : Int)
  | digits => (number? (String.ofList digits)).map fun n => (n : Int)

/-- The text counts as nothing: it is empty, or a zero. -/
def isNull (text : Octets) : Bool :=
  text = "" || match text.toList with
    | '-' :: digits => digits ≠ [] && digits.all (· == '0')
    | digits => digits.all (· == '0')

/-- Takes a word if it is one of some. -/
def takeOf (words : List Octets) : Step (Option Octets) := do
  match ← get with
  | word :: rest =>
    if word ∈ words then
      set rest
      pure (some word)
    else pure none
  | [] => pure none

/-- What is wrong at the end of the words, `last` of which was read. -/
def wantsMore {α : Type} (last : Octets) : Step α :=
  throw ("syntax error: missing argument after " ++ quote last)

/-- Matches the start of a text: gives the part in the first group, or the length of the match. -/
def matchStart (text pattern : Octets) : Except Octets Octets := do
  match Regex.read false pattern with
  | .error problem => .error (match problem with
      | .openBracket => "Unmatched [, [^, [:, [., or [="
      | problem => problem.message)
  | .ok regex =>
    let grouped := (pattern.splitOn "\\(").length > 1
    let subject : Regex.Subject := { text := text.toList.toArray }
    match regex.matchAt? subject 0 with
    | none => .ok (if grouped then "" else "0")
    | some place =>
      if grouped then
        match place.groups.lookup 1 with
        | some (start, stop) =>
          .ok (String.ofList ((text.toList.drop start).take (stop - start)))
        | none => .ok ""
      else .ok (toString place.position)

/-- Applies an operator to numbers. -/
def calculate (operator left right : Octets) : Except Octets Octets :=
  match integer? left, integer? right with
  | some a, some b =>
    match operator with
    | "+" => .ok (toString (a + b))
    | "-" => .ok (toString (a - b))
    | "*" => .ok (toString (a * b))
    | operator =>
      if b = 0 then .error "division by zero"
      else .ok (toString (if operator = "/" then Int.tdiv a b else Int.tmod a b))
  | _, _ => .error "non-integer argument"

/-- Compares numbers, or texts if one is no number. -/
def compare (operator left right : Octets) : Octets :=
  let order := match integer? left, integer? right with
    | some a, some b => Ord.compare a b
    | _, _ => Ord.compare left right
  let holds : Bool := match operator with
    | "<" => order == .lt
    | "<=" => order != .gt
    | "=" | "==" => order == .eq
    | "!=" => order != .eq
    | ">=" => order != .lt
    | _ => order == .gt
  if holds then "1" else "0"

mutual

/-- The operators from the loosest on, each level a number. -/
def level : (fuel : Nat) → (rank : Nat) → (last : Octets) → Step Octets
  | 0, _, last => wantsMore last
  | fuel + 1, rank, last => do
    if rank = 6 then operand fuel last
    else do
      let left ← level fuel (rank + 1) last
      more fuel rank left

/-- Goes on with operators of one level from the left. -/
def more : (fuel : Nat) → (rank : Nat) → (left : Octets) → Step Octets
  | 0, _, left => pure left
  | fuel + 1, rank, left => do
    let operators := match rank with
      | 0 => ["|"]
      | 1 => ["&"]
      | 2 => ["<", "<=", "=", "==", "!=", ">=", ">"]
      | 3 => ["+", "-"]
      | 4 => ["*", "/", "%"]
      | _ => [":"]
    match ← takeOf operators with
    | none => pure left
    | some operator => do
      let right ← level fuel (rank + 1) operator
      let value ← match operator with
        | "|" => pure (if !isNull left then left else if !isNull right then right else "0")
        | "&" => pure (if !isNull left ∧ !isNull right then left else "0")
        | ":" => liftM (matchStart left right)
        | operator =>
          if rank = 2 then pure (compare operator left right)
          else liftM (calculate operator left right)
      more fuel rank value

/-- A word, an expression in brackets, or a function of words. -/
def operand : (fuel : Nat) → (last : Octets) → Step Octets
  | 0, last => wantsMore last
  | fuel + 1, last => do
    match ← get with
    | [] => wantsMore last
    | word :: rest => do
      set rest
      match word with
      | "+" => match rest with
        | word :: rest => do
          set rest
          pure word
        | [] => wantsMore "+"
      | "length" => return toString (← operand fuel word).length
      | "match" => do
        let text ← operand fuel word
        let pattern ← operand fuel text
        liftM (matchStart text pattern)
      | "index" => do
        let text ← operand fuel word
        let characters ← operand fuel text
        let position := text.toList.findIdx? (characters.toList.contains ·)
        pure (toString ((position.map (· + 1)).getD 0))
      | "substr" => do
        let text ← operand fuel word
        let start ← operand fuel text
        let count ← operand fuel start
        match integer? start, integer? count with
        | some start, some count =>
          if start ≤ 0 ∨ count ≤ 0 then pure ""
          else pure (String.ofList ((text.toList.drop (start.toNat - 1)).take count.toNat))
        | _, _ => pure ""
      | "(" => do
        let value ← level fuel 0 word
        match ← get with
        | ")" :: rest => do
          set rest
          pure value
        | [] => throw ("syntax error: expecting ')' after " ++ quote (lastOf rest))
        | found :: _ => throw ("syntax error: expecting ')' instead of " ++ quote found)
      | ")" => throw "syntax error: unexpected ')'"
      | word => pure word

/-- The last of some words. -/
def lastOf (words : List Octets) : Octets := words.getLast?.getD ""

end

/-- The value of an expression. -/
def evaluate (words : List Octets) : Except Octets Octets := do
  let (value, rest) ← (level (16 * words.length + 16) 0 "").run words
  match rest with
  | [] => .ok value
  | word :: _ => .error ("syntax error: unexpected argument " ++ quote word)

end Expression

/-- Writes the value of an expression. -/
def expr : Routine m := fun args => do
  let args := match args with
    | "--" :: rest => rest
    | args => args
  if args = [] then refuseUsage "missing operand" 2
  else
    match Expression.evaluate args with
    | .error problem => refuse problem 2
    | .ok value => do
      putLines [value]
      pure (if Expression.isNull value then 1 else 0)

end HybridTx.Program
