import HybridTx.Program.Basic
import HybridTx.Program.Regex

/-! Searching lines for expressions. -/

namespace HybridTx.Program

variable {m : Type → Type} [Monad m]

/-- How lines are searched. -/
structure LineSearch where
  regexes : List Regex
  foldCase : Bool
  words : Bool
  whole : Bool

namespace LineSearch

/-- A match may stand there: as a whole line, or as whole words, if only these count. -/
def allows (search : LineSearch) (subject : Regex.Subject) (start stop : Nat) : Bool :=
  (!search.whole || (start == 0 && stop == subject.text.size)) &&
    (!search.words || (!subject.isWordBefore start && !subject.isWordAt stop))

/-- The first and longest match from a position on. -/
def find? (search : LineSearch) (subject : Regex.Subject) (start : Nat) : Option (Nat × Nat) :=
  (List.range' start (subject.text.size + 1 - start)).findSome? fun position =>
    let stops := search.regexes.flatMap fun regex =>
      (Regex.ends subject regex { position }).map Regex.Place.position
    let stops := stops.filter (search.allows subject position)
    if stops = [] then none else some (position, stops.foldl max position)

/-- The matches in a line that hold something, one after another. -/
def findAll (search : LineSearch) (subject : Regex.Subject) :
    (fuel : Nat) → (start : Nat) → List (Nat × Nat)
  | 0, _ => []
  | fuel + 1, start =>
    match search.find? subject start with
    | some (first, stop) =>
      if stop > first then (first, stop) :: findAll search subject fuel stop
      else if first < subject.text.size then findAll search subject fuel (first + 1)
      else []
    | none => []

/-- What is searched in a line. -/
def subjectOf (search : LineSearch) (line : Octets) : Regex.Subject :=
  { text := line.toList.toArray, foldCase := search.foldCase }

end LineSearch

/-- The options of a search. -/
def searchTable : OptionTable :=
  { flags := "EFGPivwxcnlLqshHorRzbay".toList, valued := ['e', 'f', 'm', 'A', 'B', 'C']
    long := [("extended-regexp", 'E'), ("fixed-strings", 'F'), ("basic-regexp", 'G'),
      ("perl-regexp", 'P'), ("ignore-case", 'i'), ("invert-match", 'v'), ("word-regexp", 'w'),
      ("line-regexp", 'x'), ("count", 'c'), ("line-number", 'n'), ("files-with-matches", 'l'),
      ("files-without-match", 'L'), ("quiet", 'q'), ("silent", 'q'), ("no-messages", 's'),
      ("no-filename", 'h'), ("with-filename", 'H'), ("only-matching", 'o'), ("recursive", 'r'),
      ("byte-offset", 'b'), ("text", 'a'), ("regexp", 'e'), ("file", 'f'), ("max-count", 'm'),
      ("after-context", 'A'), ("before-context", 'B'), ("context", 'C')] }

/-- The lines of an answer: those that fit, and their neighbours. Each has its number and whether it
fits; parts of the file that are left out are told by none. -/
def withContext (before after : Nat) (lines : List (Octets × Bool)) :
    List (Option (Nat × Octets × Bool)) :=
  let marked := lines.zipIdx
  let fits := marked.filterMap fun ((_, fits), n) => if fits then some n else none
  let shown := marked.filter fun (_, n) =>
    fits.any fun k => k ≤ n + before && n ≤ k + after
  let (_, rows) := shown.foldl (fun (last, rows) ((line, fits), n) =>
    let gap := match last with
      | some k => n > k + 1 && (before + after > 0)
      | none => false
    let rows := if gap then none :: rows else rows
    (some n, some (n + 1, line, fits) :: rows))
    ((none, []) : Option Nat × List (Option (Nat × Octets × Bool)))
  rows.reverse

/-- The lines up to the last of so many that fit. -/
def upTo : (most : Nat) → List (Octets × Bool) → List (Octets × Bool)
  | 0, _ | _, [] => []
  | most + 1, (line, fits) :: rest =>
    (line, fits) :: upTo (if fits then most else most + 1) rest

/-- Searches files for lines that fit an expression. -/
def grepWith (style : Option Char) : Routine m := fun args =>
  withOptions searchTable 2 args fun given => do
    let usage : Act m Nat := do
      putError "Usage: grep [OPTION]... PATTERNS [FILE]..."
      putError "Try 'grep --help' for more information."
      pure 2
    let listed ← given.options.mapM fun (c, value) => do
      match c with
      | 'e' => pure (some (value.splitOn "\n"))
      | 'f' => do
        match ← readOperand value with
        | .ok text => pure (some ((linesOf text).map chomp))
        | .error e => do
          complainOf value e
          pure none
      | _ => pure (some [])
    if listed.any Option.isNone then return 2
    let named := given.has 'e' || given.has 'f'
    let patterns := (listed.filterMap id).flatten
    let (patterns, paths) := match named, given.operands with
      | false, pattern :: paths => (pattern.splitOn "\n", paths)
      | _, operands => (patterns, operands)
    if !named ∧ given.operands = [] then return ← usage
    let kind := ((given.last? ['E', 'F', 'G', 'P']).or style).getD 'G'
    let readPattern (pattern : Octets) : Except Regex.Problem Regex :=
      if kind = 'F' then .ok (Regex.ofText pattern)
      else Regex.read (kind = 'E' || kind = 'P') pattern
    match patterns.mapM readPattern with
    | .error .openBracket => refuse "Invalid regular expression" 2
    | .error problem => refuse problem.message 2
    | .ok regexes => do
      let search : LineSearch :=
        { regexes, foldCase := given.has 'i' || given.has 'y', words := given.has 'w'
          whole := given.has 'x' }
      let paths := if paths = [] then ["-"] else paths
      let titled := match given.last? ['h', 'H'] with
        | some 'H' => true
        | some _ => false
        | none => paths.length > 1
      let number (c : Char) : Option Nat := (given.value? c).bind number?
      let around := (number 'C').getD 0
      let before := (number 'B').getD around
      let after := (number 'A').getD around
      let results ← paths.mapM fun path => do
        match ← readOperand path with
        | .error e => do
          if !given.has 's' then complainOf path e
          pure (false, true)
        | .ok text =>
          let title := if path = "-" then "(standard input)" else path
          let lines := (linesOf text).map chomp
          let judged := lines.map fun line =>
            (line, (search.find? (search.subjectOf line) 0).isSome != given.has 'v')
          let judged := match number 'm' with
            | some most => upTo most judged
            | none => judged
          let count : Nat := judged.countP fun (_, fits) => fits
          let mark (fits : Bool) : Octets := if fits then ":" else "-"
          let head (n : Nat) (fits : Bool) : Octets :=
            (if titled then title ++ mark fits else "") ++
              (if given.has 'n' then toString n ++ mark fits else "")
          if given.has 'q' then pure ()
          else if given.has 'l' then putLines (if count > 0 then [title] else [])
          else if given.has 'L' then putLines (if count = 0 then [title] else [])
          else if given.has 'c' then
            putLines [(if titled then title ++ ":" else "") ++ toString count]
          else if given.has 'o' then
            let offsets := (lines.foldl (fun (offset, offsets) line =>
              (offset + line.length + 1, offset :: offsets)) (0, ([] : List Nat))).2.reverse
            putLines ((judged.zipIdx).flatMap fun ((line, fits), n) =>
              if !fits ∨ given.has 'v' then []
              else (search.findAll (search.subjectOf line) (line.length + 1) 0).map
                fun (first, stop) =>
                  let at' :=
                    if given.has 'b' then toString (offsets.getD n 0 + first) ++ ":" else ""
                  head (n + 1) true ++ at' ++
                    String.ofList ((line.toList.drop first).take (stop - first)))
          else
            putLines ((withContext before after judged).map fun
              | some (n, line, fits) => head n fits ++ line
              | none => "--")
          pure (count > 0, false)
      let found := results.any (·.1)
      let failed := results.any (·.2)
      pure (if failed ∧ !(given.has 'q' ∧ found) then 2
        else if given.has 'L' then (if found then 1 else 0)
        else if found then 0 else 1)

end HybridTx.Program
