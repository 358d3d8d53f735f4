import HybridTx.Program.Basic

/-! Conditions on texts, numbers and files, as scripts and programs test them. -/

namespace HybridTx.Program.Condition

/-- What is at a path. -/
inductive Finding
  | nothing
  | file (size : Nat)
  | directory
  | device
deriving DecidableEq

/-- What is at a path. -/
def sortAt {m : Type → Type} [Monad m] (files : FileSystem m) (directory path : Octets) :
    m Finding := do
  if (Device.ofPath? path).isSome then
    return .device
  let place := (if path.startsWith "/" || path = "" then path else Path.join directory path).toText
  if ← files.isDir place then return .directory
  match ← files.read place with
  | .ok content => return .file content.length
  | .error _ => return .nothing

/-- Operators before one operand. -/
def unary : List String :=
  ["-r", "-w", "-x", "-e", "-f", "-d", "-c", "-b", "-p", "-u", "-g", "-k", "-s", "-t", "-z", "-n",
    "-h", "-O", "-G", "-L", "-S"]

/-- Operators between two operands. -/
def binary : List String :=
  ["=", "!=", "<", ">", "-eq", "-ne", "-ge", "-gt", "-le", "-lt", "-nt", "-ot", "-ef"]

/-- What is wrong with a condition. -/
abbrev Problem := Octets

variable {m : Type → Type} [Monad m] (look : Octets → m Finding)

/-- Whether an operator holds of its operand. A file can be read and written by its owner, but not
run. -/
def holdsOf (operator operand : Octets) : m Bool := do
  match operator with
  | "-z" => pure (operand = "")
  | "-n" => pure (operand ≠ "")
  | "-t" => pure false
  | "-f" => do return match ← look operand with
    | .file _ => true
    | _ => false
  | "-d" => return (← look operand) = .directory
  | "-c" => return (← look operand) = .device
  | "-e" | "-r" | "-w" | "-O" | "-G" => return (← look operand) ≠ .nothing
  | "-x" => return (← look operand) = .directory
  | "-s" => match ← look operand with
    | .file size => pure (size > 0)
    | .directory => pure true
    | _ => pure false
  | _ => pure false

/-- Reads a number with blanks around it. -/
def integer? (text : Octets) : Option Int :=
  let isBlank (c : Char) : Bool := c == ' ' || (9 ≤ c.toNat && c.toNat ≤ 13)
  let start := text.toList.dropWhile isBlank
  let (negative, digits) := match start with
    | '-' :: digits => (true, digits)
    | '+' :: digits => (false, digits)
    | digits => (false, digits)
  let number := digits.takeWhile Char.isDigit
  if number = [] ∨ !(digits.drop number.length).all isBlank then none
  else (String.ofList number).toNat?.map fun n => if negative then -(n : Int) else n

/-- Whether an operator holds between its operands; numbers are read by `read`. Files have no times
here, so none is newer than another. -/
def holdsBetween (read : Octets → Except Problem Int) (left operator right : Octets) :
    m (Except Problem Bool) := do
  let numbers (test : Int → Int → Bool) : Except Problem Bool := do
    return test (← read left) (← read right)
  match operator with
  | "=" => pure (.ok (left = right))
  | "!=" => pure (.ok (left ≠ right))
  | "<" => pure (.ok (left < right))
  | ">" => pure (.ok (right < left))
  | "-eq" => pure (numbers (· == ·))
  | "-ne" => pure (numbers (· != ·))
  | "-ge" => pure (numbers fun a b => decide (b ≤ a))
  | "-gt" => pure (numbers fun a b => decide (b < a))
  | "-le" => pure (numbers fun a b => decide (a ≤ b))
  | "-lt" => pure (numbers fun a b => decide (a < b))
  | "-ef" => return .ok (left = right && (← look left) ≠ .nothing)
  | _ => pure (.ok false)

/-! Conditions of scripts -/

/-- The role that a word has where it stands. -/
inductive Role
  | finish
  | operand
  | unary
  | binary
  | negation
  | both
  | either
  | opening
  | closing
deriving DecidableEq

/-- The role of the first of some words. An operator is an operand when no operand follows it, or
when an operator between two operands does. -/
def roleOf : List Octets → Role
  | [] => .finish
  | word :: rest =>
    let isOperand := match rest with
      | [] => true
      | [_] => false
      | next :: _ :: _ => next ∈ binary
    if word ∈ unary then if isOperand then .operand else .unary
    else if word ∈ binary then .binary
    else match word with
      | "!" => .negation
      | "-a" => .both
      | "-o" => .either
      | "(" => if rest = [] then .operand else .opening
      | ")" => .closing
      | _ => .operand

/-- Testing: the words from the one that is looked at. -/
abbrev Test (m : Type → Type) := StateT (List Octets) (ExceptT Problem m)

/-- Drops words. -/
def advance (count : Nat) : Test m Unit := modify (·.drop count)

/-- Reads a number of a script. -/
def scriptInteger (text : Octets) : Except Problem Int :=
  match integer? text with
  | some n => .ok n
  | none => .error ("Illegal number: " ++ text)

mutual

/-- Conditions of which one must hold, of which the first begins with a given role. It ends at its
last word. -/
def anyOf : (fuel : Nat) → Role → Test m Bool
  | 0, _ => pure false
  | fuel + 1, role => do
    let first ← allOf fuel role
    if roleOf ((← get).drop 1) = .either then
      advance 2
      let rest ← anyOf fuel (roleOf (← get))
      pure (first || rest)
    else pure first

/-- Conditions that must all hold. -/
def allOf : (fuel : Nat) → Role → Test m Bool
  | 0, _ => pure false
  | fuel + 1, role => do
    let first ← negated fuel role
    if roleOf ((← get).drop 1) = .both then
      advance 2
      let rest ← allOf fuel (roleOf (← get))
      pure (first && rest)
    else pure first

/-- A condition, perhaps negated. -/
def negated : (fuel : Nat) → Role → Test m Bool
  | 0, _ => pure false
  | fuel + 1, role => do
    if role ≠ .negation then return ← single fuel role
    let next := roleOf ((← get).drop 1)
    if next ≠ .finish then advance 1
    return !(← negated fuel next)

/-- A condition without others in it, or one in brackets. -/
def single : (fuel : Nat) → Role → Test m Bool
  | 0, _ => pure false
  | fuel + 1, role => do
    let words ← get
    match role, words with
    | .finish, _ | _, [] => pure false
    | .opening, _ => do
      advance 1
      let next := roleOf (← get)
      if next = .closing then return false
      let holds ← anyOf fuel next
      advance 1
      if roleOf (← get) ≠ .closing then throw "closing paren expected"
      pure holds
    | .unary, [operator] => throw (operator ++ ": argument expected")
    | .unary, operator :: operand :: _ => do
      advance 1
      liftM (holdsOf look operator operand)
    | _, left :: rest =>
      if roleOf rest = .binary then
        match rest with
        | [operator] => throw (operator ++ ": argument expected")
        | operator :: right :: _ => do
          advance 2
          match ← liftM (holdsBetween look scriptInteger left operator right) with
          | .ok holds => pure holds
          | .error problem => throw problem
        | [] => pure false
      else pure (left ≠ "")

end

/-- A condition of a script. Up to four words are read by their number. -/
def ofScript : (fuel : Nat) → List Octets → m (Except Problem Bool)
  | 0, _ | _, [] => pure (.ok false)
  | fuel + 1, words => do
    let run (words : List Octets) (role : Role) : m (Except Problem Bool) := do
      match ← ((anyOf look (8 * words.length + 8) role).run words).run with
      | .error problem => pure (.error problem)
      | .ok (_, word :: _ :: _) =>
        pure (.error (if word = "" then "unexpected operator" else word ++ ": unexpected operator"))
      | .ok (holds, _) => pure (.ok holds)
    let isShort := words.length = 3 ∨ words.length = 4
    match words with
    | [_, operator, _] =>
      if operator ∈ binary then return ← run words .operand
    | _ => pure ()
    if isShort ∧ words.head? = some "(" ∧ words.getLast? = some ")" then
      let inner := (words.drop 1).dropLast
      run inner (roleOf inner)
    else if isShort ∧ words.head? = some "!" then
      return (← ofScript fuel (words.drop 1)).map not
    else run words (roleOf words)

/-! Conditions of programs -/

/-- Reads a number of a program. -/
def programInteger (text : Octets) : Except Problem Int :=
  match integer? text with
  | some n => .ok n
  | none => .error ("invalid integer " ++ quote text)

/-- A condition of a program, read by the number of its words. -/
def ofProgram : List Octets → m (Except Problem Bool)
  | [] => pure (.ok false)
  | [word] => pure (.ok (word ≠ ""))
  | ["!", word] => pure (.ok (word = ""))
  | [operator, operand] => do
    if operator ∈ unary then return .ok (← holdsOf look operator operand)
    else if operator.startsWith "-" ∧ operator.length = 2 then
      pure (.error (quote operator ++ ": unary operator expected"))
    else pure (.error ("missing argument after " ++ quote operand))
  | [left, operator, right] => do
    if operator ∈ binary ∨ operator = "==" then
      holdsBetween look programInteger left (if operator = "==" then "=" else operator) right
    else if operator = "-a" then pure (.ok (left ≠ "" ∧ right ≠ ""))
    else if operator = "-o" then pure (.ok (left ≠ "" ∨ right ≠ ""))
    else if left = "!" then return (← ofProgram [operator, right]).map not
    else if left = "(" ∧ right = ")" then pure (.ok (operator ≠ ""))
    else pure (.error (quote operator ++ ": binary operator expected"))
  | "!" :: rest => do return (← ofProgram rest).map not
  | words => do
    match ← ((anyOf look (8 * words.length + 8) (roleOf words)).run words).run with
    | .error problem => pure (.error problem)
    | .ok (_, _ :: extra :: _) => pure (.error ("extra argument " ++ quote extra))
    | .ok (holds, _) => pure (.ok holds)

end HybridTx.Program.Condition
