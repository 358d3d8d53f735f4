import HybridTx.Text.Octets

/-! Patterns: characters, of which some stand for any character, one of a set, or any text. -/

namespace HybridTx.Script

/-- A character of a text, which has no special meaning if it is quoted. -/
abbrev Letter := Char × Bool

/-- A member of a set of characters. -/
inductive SetMember
  | between (low high : Char)
  | kind (name : String)
deriving DecidableEq, Repr

/-- The kinds of characters that sets can name. Only the characters of ASCII have a kind. -/
def kindHolds (name : String) (c : Char) : Bool :=
  let n := c.toNat
  match name with
  | "alnum" => c.isAlphanum
  | "alpha" => c.isAlpha
  | "blank" => c == ' ' || c == '\t'
  | "cntrl" => n < 32 || n == 127
  | "digit" => c.isDigit
  | "graph" => 32 < n && n < 127
  | "lower" => c.isLower
  | "print" => 32 ≤ n && n < 127
  | "punct" => 32 < n && n < 127 && !c.isAlphanum
  | "space" => c == ' ' || (9 ≤ n && n ≤ 13)
  | "upper" => c.isUpper
  | "xdigit" => c.isDigit || ('a' ≤ c && c ≤ 'f') || ('A' ≤ c && c ≤ 'F')
  | _ => false

/-- The character is the member, or one of its characters. -/
def SetMember.contains (member : SetMember) (c : Char) : Bool :=
  match member with
  | between low high => low ≤ c && c ≤ high
  | kind name => kindHolds name c

/-- A part of a pattern. -/
inductive Glob
  | exactly (c : Char)
  | anyCharacter
  | anyText
  | oneOf (inside : Bool) (members : List SetMember)
deriving DecidableEq, Repr

namespace Glob

/-- Characters behind a backslash are quoted. -/
def unescape : List Letter → List Letter
  | ('\\', false) :: (c, _) :: rest => (c, true) :: unescape rest
  | letter :: rest => letter :: unescape rest
  | [] => []

/-- The name of a kind behind `[:`, and what follows it. -/
def readKind? (letters : List Letter) : Option (String × List Letter) :=
  match letters with
  | (':', false) :: rest =>
    let name := (rest.map Prod.fst).takeWhile (· ≠ ':')
    match rest.drop name.length with
    | (':', _) :: (']', _) :: rest => some (String.ofList name, rest)
    | _ => none
  | _ => none

/-- Reads the members of a set up to its closing bracket. The first may be a closing bracket. -/
def readMembers : (fuel : Nat) → (first : Bool) → List Letter →
    Option (List SetMember × List Letter)
  | 0, _, _ | _, _, [] => none
  | fuel + 1, first, (c, quoted) :: rest =>
    let goOn (member : SetMember) (rest : List Letter) :=
      (readMembers fuel false rest).map fun (members, rest) => (member :: members, rest)
    if c = ']' ∧ !quoted ∧ !first then some ([], rest)
    else
      match if c = '[' ∧ !quoted then readKind? rest else none with
      | some (name, rest) => goOn (.kind name) rest
      | none =>
        match rest with
        | ('-', false) :: (d, dQuoted) :: rest' =>
          if d = ']' ∧ !dQuoted then goOn (.between c c) rest else goOn (.between c d) rest'
        | _ => goOn (.between c c) rest

/-- Goes on reading a pattern. A bracket that is not closed stands for itself. -/
def read : (fuel : Nat) → List Letter → List Glob
  | 0, _ | _, [] => []
  | fuel + 1, ('*', false) :: rest => .anyText :: read fuel rest
  | fuel + 1, ('?', false) :: rest => .anyCharacter :: read fuel rest
  | fuel + 1, ('[', false) :: rest =>
    let (inside, body) := match rest with
      | ('!', false) :: rest => (false, rest)
      | rest => (true, rest)
    match readMembers (body.length + 1) true body with
    | some (members, rest) => .oneOf inside members :: read fuel rest
    | none => .exactly '[' :: read fuel rest
  | fuel + 1, (c, _) :: rest => .exactly c :: read fuel rest

/-- The pattern that letters spell. -/
def ofLetters (letters : List Letter) : List Glob :=
  let letters := unescape letters
  read (letters.length + 1) letters

/-- The pattern fits the whole text. -/
def fits : List Glob → List Char → Bool
  | [], text => text.isEmpty
  | .anyText :: pattern, text =>
    (List.range (text.length + 1)).any fun n => fits pattern (text.drop n)
  | _ :: _, [] => false
  | .anyCharacter :: pattern, _ :: text => fits pattern text
  | .exactly c :: pattern, d :: text => c == d && fits pattern text
  | .oneOf inside members :: pattern, c :: text =>
    members.any (·.contains c) == inside && fits pattern text

/-- What is left of a text when a fitting part is cut off its start or its end. A shorter part goes
before a longer one unless the longest is asked for; nothing is cut if no part fits. -/
def trim (pattern : List Glob) (atEnd longest : Bool) (text : List Char) : List Char :=
  let sizes := List.range (text.length + 1)
  let sizes := if longest then sizes.reverse else sizes
  let part (n : Nat) := if atEnd then text.drop (text.length - n) else text.take n
  match sizes.find? fun n => fits pattern (part n) with
  | some n => if atEnd then text.take (text.length - n) else text.drop n
  | none => text

/-- A letter that makes a text a pattern. -/
def isWild : Letter → Bool
  | (c, quoted) => !quoted && c ∈ ['*', '?', '[']

end Glob

end HybridTx.Script
