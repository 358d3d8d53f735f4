import HybridTx.Script.Pattern

/-! Regular expressions, in the two forms that programs read: a plain form, in which grouping,
repeating and alternatives take a backslash, and an extended one, in which they do not. -/

namespace HybridTx.Program

open Script (SetMember)

/-- A regular expression. -/
inductive Regex
  | empty
  | exactly (c : Char)
  | anyCharacter
  | oneOf (inside : Bool) (members : List SetMember)
  | lineStart
  | lineEnd
  | wordStart
  | wordEnd
  | wordBound (at' : Bool)
  | sequence (first second : Regex)
  | either (first second : Regex)
  | repeated (least : Nat) (most : Option Nat) (body : Regex)
  | group (number : Nat) (body : Regex)
  | again (number : Nat)

namespace Regex

/-! Reading -/

/-- The members of a set up to its closing bracket, where backslashes stand for themselves. The
first may be a closing bracket. -/
def readSet : (fuel : Nat) → (first : Bool) → List Char → Option (List SetMember × List Char)
  | 0, _, _ | _, _, [] => none
  | fuel + 1, first, c :: rest =>
    let goOn (member : SetMember) (rest : List Char) :=
      (readSet fuel false rest).map fun (members, rest) => (member :: members, rest)
    if c = ']' ∧ !first then some ([], rest)
    else
      match c, rest with
      | '[', ':' :: named =>
        let name := named.takeWhile (· ≠ ':')
        match named.drop name.length with
        | ':' :: ']' :: rest => goOn (.kind (String.ofList name)) rest
        | _ => none
      | c, '-' :: d :: rest' =>
        if d = ']' then goOn (.between c c) rest else goOn (.between c d) rest'
      | c, rest => goOn (.between c c) rest

/-- What can be wrong with an expression. -/
inductive Problem
  | openBracket
  | openGroup
  | closedGroup
  | badRepeat
  | badReference
  | trailingBackslash
deriving DecidableEq, Repr

/-- The wording of a problem. -/
def Problem.message : Problem → String
  | openBracket => "Unmatched [, [^, [:, [., or [="
  | openGroup => "Unmatched ( or \\("
  | closedGroup => "Unmatched ) or \\)"
  | badRepeat => "Invalid preceding regular expression"
  | badReference => "Invalid back reference"
  | trailingBackslash => "Trailing backslash"

/-- How often something is repeated, behind an opening brace. -/
def readBounds (closing : List Char) (text : List Char) :
    Option ((Nat × Option Nat) × List Char) :=
  let low := text.takeWhile Char.isDigit
  let rest := text.drop low.length
  let number (digits : List Char) : Nat := (String.ofList digits).toNat?.getD 0
  let finish (bounds : Nat × Option Nat) (rest : List Char) :=
    if closing.isPrefixOf rest = true then some (bounds, rest.drop closing.length) else none
  match rest with
  | ',' :: rest =>
    let high := rest.takeWhile Char.isDigit
    finish (number low, if high = [] then none else some (number high)) (rest.drop high.length)
  | rest => if low = [] then none else finish (number low, some (number low)) rest

/-- A sign of an expression. -/
inductive Sign
  | character (c : Char)
  | escape (c : Char)
  | bar
  | opening
  | closing
  | set
  | any
  | caret
  | dollar
  | star
  | plus
  | optional
  | bounds
  | stray
deriving DecidableEq

/-- The meaning that some characters have behind a backslash in the plain form, and without one in
the extended form. -/
def special? : Char → Option Sign
  | '|' => some .bar
  | '(' => some .opening
  | ')' => some .closing
  | '+' => some .plus
  | '?' => some .optional
  | '\x7b' => some .bounds
  | _ => none

/-- The meaning that some characters have in both forms. -/
def common? : Char → Option Sign
  | '[' => some .set
  | '.' => some .any
  | '^' => some .caret
  | '$' => some .dollar
  | '*' => some .star
  | _ => none

/-- The first sign of a text, and what follows it. -/
def next? (extended : Bool) : List Char → Option (Sign × List Char)
  | [] => none
  | ['\\'] => some (.stray, [])
  | '\\' :: c :: rest =>
    some (if extended then .escape c else (special? c).getD (.escape c), rest)
  | c :: rest =>
    let special := if extended then special? c else none
    some (((common? c).or special).getD (.character c), rest)

/-- The characters of words. -/
def wordMembers : List SetMember := [.kind "alnum", .between '_' '_']

/-- What an escaped character stands for. -/
def escapeMeaning (c : Char) : Regex :=
  match c with
  | '<' => .wordStart
  | '>' => .wordEnd
  | 'b' => .wordBound true
  | 'B' => .wordBound false
  | 'w' => .oneOf true wordMembers
  | 'W' => .oneOf false wordMembers
  | 's' => .oneOf true [.kind "space"]
  | 'S' => .oneOf false [.kind "space"]
  | 'n' => .exactly '\n'
  | 't' => .exactly '\t'
  | c => .exactly c

/-- What was read of an expression so far: the text behind it and how many groups were opened. -/
structure Progress where
  rest : List Char
  groups : Nat := 0

variable (extended : Bool)

/-- Reads how often a part is repeated, as far as that is said. -/
def readRepeats : (fuel : Nat) → Regex → Progress → Except Problem (Regex × Progress)
  | 0, part, progress => .ok (part, progress)
  | fuel + 1, part, progress =>
    let goOn (least : Nat) (most : Option Nat) (rest : List Char) :=
      readRepeats fuel (.repeated least most part) { progress with rest }
    match next? extended progress.rest with
    | some (.star, rest) => goOn 0 none rest
    | some (.plus, rest) => goOn 1 none rest
    | some (.optional, rest) => goOn 0 (some 1) rest
    | some (.bounds, rest) =>
      match readBounds (if extended then ['\x7d'] else ['\\', '\x7d']) rest with
      | some ((least, most), rest) => goOn least most rest
      | none => if extended then .ok (part, progress) else .error .badRepeat
    | _ => .ok (part, progress)

mutual

/-- Reads alternatives, up to the end or a bracket that closes a group. -/
def readEither : (fuel : Nat) → (depth : Nat) → Progress → Except Problem (Regex × Progress)
  | 0, _, progress => .ok (.empty, progress)
  | fuel + 1, depth, progress => do
    let (first, progress) ← readSequence fuel depth true .empty progress
    match next? extended progress.rest with
    | some (.bar, rest) =>
      let (second, progress) ← readEither fuel depth { progress with rest }
      .ok (.either first second, progress)
    | _ => .ok (first, progress)

/-- Goes on with parts one after another, with `before` for what was read. At the start of a part of
its own, signs of repeating stand for themselves or for nothing. -/
def readSequence : (fuel : Nat) → (depth : Nat) → (start : Bool) → (before : Regex) → Progress →
    Except Problem (Regex × Progress)
  | 0, _, _, before, progress => .ok (before, progress)
  | fuel + 1, depth, start, before, progress => do
    let goOn (part : Regex) (progress : Progress) := do
      let (part, progress) ← readRepeats extended (progress.rest.length + 1) part progress
      readSequence fuel depth false (.sequence before part) progress
    match next? extended progress.rest with
    | none => .ok (before, progress)
    | some (.bar, _) => .ok (before, progress)
    | some (.closing, rest) =>
      if depth > 0 then .ok (before, progress)
      else if extended then goOn (.exactly ')') { progress with rest }
      else .error .closedGroup
    | some (.opening, rest) =>
      let number := progress.groups + 1
      let (body, progress) ← readEither fuel (depth + 1) { rest, groups := number }
      match next? extended progress.rest with
      | some (.closing, rest) => goOn (.group number body) { progress with rest }
      | _ => .error .openGroup
    | some (.set, rest) =>
      let (inside, body) := match rest with
        | '^' :: body => (false, body)
        | body => (true, body)
      match readSet (body.length + 1) true body with
      | some (members, rest) => goOn (.oneOf inside members) { progress with rest }
      | none => .error .openBracket
    | some (.any, rest) => goOn .anyCharacter { progress with rest }
    | some (.caret, rest) =>
      let progress := { progress with rest }
      if extended then goOn .lineStart progress
      else if start then readSequence fuel depth true (.sequence before .lineStart) progress
      else goOn (.exactly '^') progress
    | some (.dollar, rest) =>
      let atEnd := match next? extended rest with
        | none | some (.closing, _) | some (.bar, _) => true
        | _ => false
      goOn (if extended || atEnd then .lineEnd else .exactly '$') { progress with rest }
    | some (.star, rest) =>
      let progress := { progress with rest }
      if extended then readSequence fuel depth start before progress
      else goOn (.exactly '*') progress
    | some (.plus, rest) | some (.optional, rest) =>
      let progress := { progress with rest }
      if extended then readSequence fuel depth start before progress else .error .badRepeat
    | some (.bounds, rest) =>
      if extended then goOn (.exactly '\x7b') { progress with rest } else .error .badRepeat
    | some (.stray, _) => .error .trailingBackslash
    | some (.escape c, rest) =>
      if c.isDigit ∧ c ≠ '0' then
        let number := c.toNat - 48
        if number > progress.groups then .error .badReference
        else goOn (.again number) { progress with rest }
      else goOn (escapeMeaning c) { progress with rest }
    | some (.character c, rest) => goOn (.exactly c) { progress with rest }

end

/-- Reads an expression. -/
def read (text : Octets) : Except Problem Regex := do
  let (regex, _) ← readEither extended (4 * text.length + 8) 0 { rest := text.toList }
  .ok regex

/-- The expression that a text is, with all its characters standing for themselves. -/
def ofText (text : Octets) : Regex :=
  text.toList.foldl (fun before c => .sequence before (.exactly c)) .empty

/-! Matching -/

/-- A place in a text, and where each group began and ended. -/
structure Place where
  position : Nat
  groups : List (Nat × (Nat × Nat)) := []

/-- What a text is searched in: its characters, and whether capital letters count as small ones. -/
structure Subject where
  text : Array Char
  foldCase : Bool := false

namespace Subject

/-- The character at a position. -/
def at? (subject : Subject) (position : Nat) : Option Char := subject.text[position]?

/-- Two characters are the same. -/
def same (subject : Subject) (a b : Char) : Bool :=
  a == b || (subject.foldCase && a.toLower == b.toLower)

/-- The character is a member of the set. -/
def isMember (subject : Subject) (members : List SetMember) (c : Char) : Bool :=
  members.any fun member => member.contains c ||
    (subject.foldCase && (member.contains c.toLower || member.contains c.toUpper))

/-- A word goes on at a position. -/
def isWordAt (subject : Subject) (position : Nat) : Bool :=
  match subject.at? position with
  | some c => c.isAlphanum || c == '_'
  | none => false

/-- A word goes on before a position. -/
def isWordBefore (subject : Subject) (position : Nat) : Bool :=
  position > 0 && subject.isWordAt (position - 1)

end Subject

/-- Keeps the first place with each position. -/
def distinct (places : List Place) : List Place :=
  (places.foldl (fun kept place =>
    if kept.any fun other => other.position = place.position then kept else place :: kept)
    []).reverse

/-- Goes on from places by a step as often as allowed, `fuel` times at most. More repeats go before
fewer. A repeat that takes nothing is the last. -/
def repeatFrom (step : Place → List Place) (least : Nat) (most : Option Nat) :
    (fuel : Nat) → (done : Nat) → Place → List Place
  | 0, done, place => if least ≤ done then [place] else []
  | fuel + 1, done, place =>
    let more := if most = some done then [] else
      (distinct ((step place).filter fun next =>
        next.position ≠ place.position || done < least)).flatMap
          fun next => repeatFrom step least most fuel (done + 1) next
    distinct (if least ≤ done then more ++ [place] else more)

/-- The places at which an expression may end that begins at a place, better ones first. -/
def ends (subject : Subject) : Regex → Place → List Place
  | empty, place => [place]
  | exactly c, place => one place (subject.same c)
  | anyCharacter, place => one place fun _ => true
  | oneOf inside members, place => one place fun c => subject.isMember members c == inside
  | lineStart, place => hold place (place.position == 0)
  | lineEnd, place => hold place (place.position == subject.text.size)
  | wordStart, place =>
    hold place (!subject.isWordBefore place.position && subject.isWordAt place.position)
  | wordEnd, place =>
    hold place (subject.isWordBefore place.position && !subject.isWordAt place.position)
  | wordBound at', place =>
    hold place ((subject.isWordBefore place.position != subject.isWordAt place.position) == at')
  | sequence first second, place =>
    distinct ((ends subject first place).flatMap (ends subject second))
  | either first second, place =>
    distinct (ends subject first place ++ ends subject second place)
  | repeated least most body, place =>
    repeatFrom (ends subject body) least most (subject.text.size + least + 1) 0 place
  | group number body, place =>
    (ends subject body place).map fun next =>
      { next with groups := (number, (place.position, next.position)) ::
          next.groups.filter (·.1 ≠ number) }
  | again number, place =>
    match place.groups.lookup number with
    | none => []
    | some (start, stop) =>
      let length := stop - start
      let same := (List.range length).all fun k =>
        match subject.at? (start + k), subject.at? (place.position + k) with
        | some a, some b => subject.same a b
        | _, _ => false
      if same then [{ place with position := place.position + length }] else []
where
  /-- Takes one character of a kind. -/
  one (place : Place) (kind : Char → Bool) : List Place :=
    match subject.at? place.position with
    | some c => if kind c then [{ place with position := place.position + 1 }] else []
    | none => []
  /-- Stays where it is, if a condition holds. -/
  hold (place : Place) (holds : Bool) : List Place := if holds then [place] else []

/-- The longest match that begins at a position, and its groups. -/
def matchAt? (regex : Regex) (subject : Subject) (position : Nat) : Option Place :=
  (ends subject regex { position }).foldl (fun best place =>
    match best with
    | some (other : Place) => if other.position < place.position then some place else best
    | none => some place) none

/-- The first match from a position on: where it begins, and the place where it ends. -/
def search? (regex : Regex) (subject : Subject) (start : Nat) : Option (Nat × Place) :=
  (List.range' start (subject.text.size + 1 - start)).findSome? fun position =>
    (regex.matchAt? subject position).map fun place => (position, place)

end Regex

end HybridTx.Program
