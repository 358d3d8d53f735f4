import HybridTx.Text.Octets

/-! The commands of the script language in which signer tools are written: words with quotes,
parameters, sums and the output of other commands; redirections; lists, pipes, conditions, loops,
choices and functions. -/

namespace HybridTx.Script

/-- What may stand in for the value of a parameter, or be done about its absence. -/
inductive Alternative
  | orElse
  | orAssign
  | orFail
  | ifSet
deriving DecidableEq, Repr

mutual

/-- A part of a word. Quotes keep blanks and patterns in a part from counting. -/
inductive Piece
  | text (characters : Octets) (quoted : Bool)
  | parameter (name : String) (use : Use) (quoted : Bool)
  | output (command : Command) (quoted : Bool)
  | sum (expression : List Piece) (quoted : Bool)

/-- What is made of a parameter. An empty value counts as absent if `nullToo` holds. -/
inductive Use
  | value
  | length
  | alternative (kind : Alternative) (nullToo : Bool) (word : List Piece)
  | trim (atEnd longest : Bool) (pattern : List Piece)
  | invalid

/-- Where a stream goes to or comes from. -/
inductive Target
  | read (path : List Piece)
  | write (path : List Piece) (force : Bool)
  | append (path : List Piece)
  | readWrite (path : List Piece)
  | same (stream : List Piece)
  | document (body : List Piece)

/-- A stream and its target. -/
inductive Redirect
  | mk (stream : Nat) (target : Target)

/-- A command. The line is that of its first word. A loop goes on as long as its test succeeds, or
as long as it fails, as `wanted` says. -/
inductive Command
  | skip
  | simple (line : Nat) (assignments : List (String × List Piece)) (words : List (List Piece))
      (redirects : List Redirect)
  | pipe (first rest : Command)
  | background (line : Nat) (command : Command)
  | sequence (first second : Command)
  | both (first second : Command)
  | either (first second : Command)
  | negation (command : Command)
  | choose (test yes no : Command)
  | loop (wanted : Bool) (test body : Command)
  | each (line : Nat) (name : String) (words : List (List Piece)) (body : Command)
  | select (line : Nat) (subject : List Piece) (arms : Arms)
  | subshell (line : Nat) (command : Command) (redirects : List Redirect)
  | redirected (line : Nat) (command : Command) (redirects : List Redirect)
  | define (name : String) (body : Command)

/-- The arms of a selection, each with its patterns. -/
inductive Arms
  | none
  | arm (patterns : List (List Piece)) (body : Command) (rest : Arms)

end

/-- A word: pieces with no blank between them. -/
abbrev Word := List Piece

instance : Inhabited Command := ⟨.skip⟩

namespace Word

/-- The word of a text without quotes. -/
def ofText (text : Octets) : Word := [.text text false]

/-- All parameters of a script, each a field of its own. -/
def allParameters : Word := [.parameter "@" .value true]

/-- The text of a word with no quotes, parameters, sums or outputs in it. -/
def plain? (word : Word) : Option Octets :=
  let texts? : Option (List Octets) := word.mapM fun
    | .text characters false => some characters
    | _ => none
  texts?.map String.join

/-- The text of a word that holds nothing but text, in or out of quotes. -/
def spelled (word : Word) : Octets :=
  String.join (word.map fun
    | .text characters _ => characters
    | _ => "")

end Word

end HybridTx.Script
