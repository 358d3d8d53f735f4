import HybridTx.Program.Basic
import HybridTx.Script.Redirection

/-! The commands that scripts run themselves: what they have in common. -/

namespace HybridTx.Script

/-- A command that a script runs itself takes arguments and gives a status. -/
abbrev Builtin (m : Type → Type) := List Octets → Play m Nat

variable {m : Type → Type} [Monad m]

/-- Writes to the output, and gives the status that tells whether that could be done. -/
def say (text : Octets) : Play m Nat := do
  if text = "" then pure 0
  else if (← writeTo 1 text) matches .ok _ then pure 0
  else
    complain ((← shell).complainer.getD "" ++ ": I/O error")
    pure 1

/-- A number in decimal digits. -/
def numberOf (text : Octets) : Play m Nat :=
  match Program.number? text with
  | some number => pure number
  | none => fault ("Illegal number: " ++ text) 2

/-- Reads options of one letter each at the front of arguments, of which some take a value.
`letters` are left of the argument before. -/
def takeLetters (flags valued : List Char) : (fuel : Nat) → (letters : List Char) → List Octets →
    Play m (List (Char × Octets) × List Octets)
  | 0, _, args => pure ([], args)
  | fuel + 1, [], args =>
    match args.map String.toList, args with
    | ['-', '-'] :: _, _ :: rest => pure ([], rest)
    | ('-' :: c :: letters) :: _, _ :: rest => takeLetters flags valued fuel (c :: letters) rest
    | _, args => pure ([], args)
  | fuel + 1, c :: letters, rest => do
    if c ∈ valued then
      match letters, rest with
      | [], [] => fault ("No arg for -" ++ String.singleton c ++ " option") 2
      | [], value :: rest =>
        let (given, rest) ← takeLetters flags valued fuel [] rest
        pure ((c, value) :: given, rest)
      | letters, rest =>
        let (given, rest) ← takeLetters flags valued fuel [] rest
        pure ((c, String.ofList letters) :: given, rest)
    else if c ∈ flags then
      let (given, rest) ← takeLetters flags valued fuel letters rest
      pure ((c, "") :: given, rest)
    else fault ("Illegal option -" ++ String.singleton c) 2

/-- Reads options at the front of arguments. -/
def withLetters (flags valued : List Char) (args : List Octets)
    (use : List (Char × Octets) → List Octets → Play m Nat) : Play m Nat := do
  let size := (args.map fun arg => arg.length + 1).foldl (· + ·) 1
  let (given, rest) ← takeLetters flags valued size [] args
  use given rest

/-- A text in quotes, so that a script reads it back as it is. -/
def singleQuoted (text : Octets) : Octets :=
  go (text.length + 1) text.toList
where
  /-- Goes on: what has no quotes in it between quotes, and quotes between those of the other
  kind. -/
  go : (fuel : Nat) → List Char → Octets
    | 0, _ => ""
    | fuel + 1, text =>
      let plain := text.takeWhile (· ≠ '\'')
      let rest := text.drop plain.length
      let quotes := rest.takeWhile (· = '\'')
      let start := "'" ++ String.ofList plain ++ "'"
      if quotes = [] then start
      else
        let start := start ++ "\"" ++ String.ofList quotes ++ "\""
        match rest.drop quotes.length with
        | [] => start
        | rest => start ++ go fuel rest

end HybridTx.Script
