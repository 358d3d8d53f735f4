import HybridTx.Program.Basic
import HybridTx.Text.Split

/-! Programs that count, order, join and compare lines. -/

namespace HybridTx.Program

variable {m : Type → Type} [Monad m]

/-! Counting -/

/-- Counts of lines, words, characters and the longest line of a text. -/
structure Counts where
  lines : Nat := 0
  words : Nat := 0
  characters : Nat := 0
  longest : Nat := 0

namespace Counts

/-- A character that parts words. -/
def isSpace (c : Char) : Bool := c == ' ' || (9 ≤ c.toNat && c.toNat ≤ 13)

/-- The counts of a text. -/
def ofText (text : Octets) : Counts :=
  let (words, _) := text.toList.foldl (fun (count, inside) c =>
    if isSpace c then (count, false) else (if inside then count else count + 1, true)) (0, false)
  { lines := text.toList.count '\n', words, characters := text.length
    longest := ((linesOf text).map fun line => (chomp line).length).foldl max 0 }

/-- The counts of two texts together. -/
def add (a b : Counts) : Counts :=
  ⟨a.lines + b.lines, a.words + b.words, a.characters + b.characters, max a.longest b.longest⟩

end Counts

/-- Counts lines, words and characters. Columns are as wide as the sizes of all files together need,
or wide enough for most inputs whose size is not known before. -/
def wc : Routine m := fun args =>
  let table : OptionTable :=
    { flags := ['c', 'm', 'l', 'w', 'L']
      long := [("bytes", 'c'), ("chars", 'm'), ("lines", 'l'), ("words", 'w'),
        ("max-line-length", 'L')] }
  withOptions table 1 args fun given => do
    let chosen := ['l', 'w', 'm', 'c', 'L'].filter given.has
    let chosen := if chosen = [] then ['l', 'w', 'c'] else chosen
    let inputIsFile := (← getThe Job).inputIsFile
    let paths := if given.operands = [] then ["-"] else given.operands
    let read ← paths.mapM fun path => do return (path, ← readOperand path)
    let alone := paths.length = 1 ∧ chosen.length = 1
    let unknown := read.any fun (path, result) =>
      (path = "-" ∧ !inputIsFile) ∨ result matches .error .isDirectory
    let sizes := read.map fun (_, result) => match result with
      | .ok text => text.length
      | .error _ => 0
    let width := if alone then 1
      else max (toString (sizes.foldl (· + ·) 0)).length (if unknown then 7 else 1)
    let row (counts : Counts) (title : Octets) : Octets :=
      let cells := chosen.map fun
        | 'l' => counts.lines
        | 'w' => counts.words
        | 'L' => counts.longest
        | _ => counts.characters
      " ".intercalate (cells.map fun n => padLeft width (toString n))
        ++ (if title = "" then "" else " " ++ title) ++ "\n"
    let (total, status) ← read.foldlM (fun (total, status) (path, result) => do
      let title := if given.operands = [] then "" else path
      match result with
      | .ok text => do
        let counts := Counts.ofText text
        put (row counts title)
        pure (total.add counts, status)
      | .error e => do
        complainOf path e
        if e = .isDirectory then put (row {} title)
        pure (total, 1)) (({} : Counts), 0)
    if paths.length > 1 then put (row total "total")
    pure status

/-! Sorting -/

/-- How keys are compared. -/
structure KeyStyle where
  numeric : Bool := false
  reversed : Bool := false
  foldCase : Bool := false
  skipBlanks : Bool := false
  dictionary : Bool := false

/-- A key: from a character of a field to a character of a field, which may be missing. -/
structure SortKey where
  first : Nat × Nat
  last : Option (Nat × Nat)
  style : KeyStyle

/-- A number at the front of a text, as a sign, whole digits and digits of the fraction. -/
def leadingNumber (text : List Char) : Int :=
  let text := text.dropWhile fun c => c == ' ' || c == '\t'
  let (negative, text) := match text with
    | '-' :: rest => (true, rest)
    | rest => (false, rest)
  let whole := text.takeWhile Char.isDigit
  let fraction := match text.drop whole.length with
    | '.' :: rest => (rest.takeWhile Char.isDigit).take 18
    | _ => []
  let digits := whole ++ fraction ++ List.replicate (18 - fraction.length) '0'
  let value : Int := (String.ofList digits).toNat?.getD 0
  if negative then -value else value

/-- The order of two texts. -/
def KeyStyle.compare (style : KeyStyle) (a b : List Char) : Ordering :=
  let prepare (text : List Char) : List Char :=
    let text := if style.skipBlanks then text.dropWhile fun c => c == ' ' || c == '\t' else text
    let text := if style.dictionary then
      text.filter fun c => c.isAlphanum || c == ' ' || c == '\t' else text
    if style.foldCase then text.map Char.toUpper else text
  let order := if style.numeric then
    Ord.compare (leadingNumber a) (leadingNumber b)
    else Ord.compare (String.ofList (prepare a)) (String.ofList (prepare b))
  if style.reversed then order.swap else order

/-- The places in a line at which its fields start, with the text from there on. Without a
separator, blanks belong to the field behind them. -/
def fieldTails (separator : Option Char) (line : List Char) : List (List Char) :=
  go (line.length + 1) line
where
  /-- Goes on behind the fields before. -/
  go : (fuel : Nat) → List Char → List (List Char)
    | 0, _ => []
    | fuel + 1, text =>
      match separator with
      | some c =>
        let field := text.takeWhile (· ≠ c)
        match text.drop field.length with
        | _ :: rest => text :: go fuel rest
        | [] => [text]
      | none =>
        let isBlank (c : Char) : Bool := c == ' ' || c == '\t'
        let blanks := text.takeWhile isBlank
        let field := (text.drop blanks.length).takeWhile (!isBlank ·)
        match text.drop (blanks.length + field.length) with
        | [] => [text]
        | rest => text :: go fuel rest

/-- The part of a line that a key takes. -/
def SortKey.take (key : SortKey) (separator : Option Char) (line : List Char) : List Char :=
  let tails := fieldTails separator line
  let isBlank (c : Char) : Bool := c == ' ' || c == '\t'
  let tail (n : Nat) : List Char := tails.getD (n - 1) []
  let trimmed (text : List Char) : List Char :=
    if key.style.skipBlanks then text.dropWhile isBlank else text
  let start := (trimmed (tail key.first.1)).drop (key.first.2 - 1)
  match key.last with
  | none => start
  | some (field, 0) =>
    let behind := match tails[field]?, separator with
      | some rest, some _ => rest.length + 1
      | some rest, none => rest.length
      | none, _ => 0
    start.take (start.length - behind)
  | some (field, character) =>
    let behind := (trimmed (tail field)).length - character
    start.take (start.length - behind)

/-- Reads the letters of a style. -/
def KeyStyle.ofLetters (style : KeyStyle) (letters : List Char) : KeyStyle :=
  letters.foldl (fun style c => match c with
    | 'n' | 'g' | 'h' => { style with numeric := true }
    | 'r' => { style with reversed := true }
    | 'f' => { style with foldCase := true }
    | 'b' => { style with skipBlanks := true }
    | 'd' => { style with dictionary := true }
    | _ => style) style

/-- Reads a place in a line, such as `2.3`, and the letters behind it. -/
def readPlace (text : List Char) : (Nat × Option Nat) × List Char :=
  let field := text.takeWhile Char.isDigit
  let rest := text.drop field.length
  let number (digits : List Char) : Nat := (String.ofList digits).toNat?.getD 0
  match rest with
  | '.' :: rest =>
    let character := rest.takeWhile Char.isDigit
    ((number field, some (number character)), rest.drop character.length)
  | rest => ((number field, none), rest)

/-- Reads a key. One without letters is compared as all lines are. -/
def SortKey.read (general : KeyStyle) (text : Octets) : SortKey :=
  let (first, rest) := readPlace text.toList
  let letters := rest.takeWhile (· ≠ ',')
  let (last, more) := match rest.drop letters.length with
    | _ :: rest =>
      let (place, letters) := readPlace rest
      (some (place.1, place.2.getD 0), letters)
    | [] => (none, [])
  let letters := letters ++ more
  { first := (first.1, first.2.getD 1), last
    style := if letters = [] then general else KeyStyle.ofLetters {} letters }

/-- Puts lines in order. -/
def sort : Routine m := fun args =>
  let table : OptionTable :=
    { flags := "nrfbdughsczVim".toList, valued := ['k', 't', 'o', 'S', 'T']
      long := [("numeric-sort", 'n'), ("reverse", 'r'), ("ignore-case", 'f'), ("unique", 'u'),
        ("key", 'k'), ("field-separator", 't'), ("output", 'o'), ("stable", 's'), ("check", 'c'),
        ("ignore-leading-blanks", 'b'), ("zero-terminated", 'z')] }
  withOptions table 2 args fun given => do
    let general := KeyStyle.ofLetters {} (given.options.map Prod.fst)
    let keys := given.options.filterMap fun (c, value) =>
      if c = 'k' then some (SortKey.read general value) else none
    let separator := (given.value? 't').bind fun text => text.toList.head?
    let byKeys (a b : List Char) : Ordering :=
      if keys.isEmpty then general.compare a b
      else keys.foldl (fun order key =>
        order.then (key.style.compare (key.take separator a) (key.take separator b))) .eq
    let whole (a b : List Char) : Ordering :=
      let order := Ord.compare (String.ofList a) (String.ofList b)
      if general.reversed then order.swap else order
    let exact := given.has 'u' || given.has 's'
    let order (a b : List Char) : Ordering := (byKeys a b).then (if exact then .eq else whole a b)
    let paths := if given.operands = [] then ["-"] else given.operands
    let texts ← paths.mapM fun path => do return (path, ← readOperand path)
    match firstFault? texts with
    | some (path, .isDirectory) =>
      refuse ("read failed: " ++ quotePath path ++ ": Is a directory") 2
    | some (path, e) => refuse ("cannot read: " ++ quotePath path ++ ": " ++ e.reason) 2
    | none => do
      let lines := texts.flatMap fun (_, result) =>
        (linesOf (result.toOption.getD "")).map fun line => (chomp line).toList
      if given.has 'c' then
        let pairs := (lines.zip (lines.drop 1)).zipIdx
        match pairs.find? fun ((a, b), _) =>
          order a b = .gt || (given.has 'u' && byKeys a b = .eq) with
        | some ((_, b), n) =>
          refuse (paths.headD "-" ++ ":" ++ toString (n + 2) ++ ": disorder: "
            ++ String.ofList b) 1
        | none => pure 0
      else do
        let sorted := lines.mergeSort fun a b => order a b ≠ .gt
        let kept := if given.has 'u' then
          sorted.foldl (fun kept line => match kept with
            | last :: _ => if byKeys last line = .eq then kept else line :: kept
            | [] => [line]) [] |>.reverse
          else sorted
        let text := String.join (kept.map fun line => String.ofList line ++ "\n")
        match given.value? 'o' with
        | none => do
          put text
          pure 0
        | some path => match ← writeFile path text with
          | .ok () => pure 0
          | .error e => refuse ("open failed: " ++ quotePath path ++ ": " ++ e.reason) 2

/-! Neighbours -/

/-- Runs of lines that are the same by a test, each with its length. -/
def runs (same : Octets → Octets → Bool) (lines : List Octets) : List (Octets × Nat) :=
  (lines.foldl (fun runs line => match runs with
    | (first, count) :: rest =>
      if same first line then (first, count + 1) :: rest else (line, 1) :: runs
    | [] => [(line, 1)]) []).reverse

/-- Copies lines of which the one before is different. -/
def uniq : Routine m := fun args =>
  let table : OptionTable :=
    { flags := ['c', 'd', 'u', 'i', 'z', 'D'], valued := ['f', 's', 'w']
      long := [("count", 'c'), ("repeated", 'd'), ("unique", 'u'), ("ignore-case", 'i'),
        ("skip-fields", 'f'), ("skip-chars", 's'), ("check-chars", 'w')] }
  withOptions table 1 args fun given => do
    let number (c : Char) : Nat := ((given.value? c).bind number?).getD 0
    let skipField (text : List Char) : List Char :=
      let text := text.dropWhile fun c => c == ' ' || c == '\t'
      text.dropWhile fun c => c != ' ' && c != '\t'
    let key (line : Octets) : List Char :=
      let text := (List.range (number 'f')).foldl (fun text _ => skipField text) line.toList
      let text := text.drop (number 's')
      let text := if given.has 'w' then text.take (number 'w') else text
      if given.has 'i' then text.map Char.toUpper else text
    let path := given.operands.headD "-"
    match ← readOperand path with
    | .error .isDirectory => refuse ("error reading " ++ quote path ++ ": Is a directory") 1
    | .error e => do
      complainOf path e
      pure 1
    | .ok text => do
      let kept := (runs (fun a b => key a == key b) ((linesOf text).map chomp)).filter
        fun (_, count) =>
          (!given.has 'd' || count > 1) && (!given.has 'u' || count = 1)
      let shown := kept.map fun (line, count) =>
        if given.has 'c' then padLeft 7 (toString count) ++ " " ++ line else line
      match given.operands[1]? with
      | none => do
        putLines shown
        pure 0
      | some target => match ← writeFile target (String.join (shown.map (· ++ "\n"))) with
        | .ok () => pure 0
        | .error e => do
          complainOf target e
          pure 1

/-- Walks through two lists of lines in order. A line is of the first alone, of the second alone, or
of both. -/
def merge : (fuel : Nat) → List Octets → List Octets → List (Nat × Octets)
  | 0, _, _ | _, [], [] => []
  | fuel + 1, a :: as, [] => (0, a) :: merge fuel as []
  | fuel + 1, [], b :: bs => (1, b) :: merge fuel [] bs
  | fuel + 1, a :: as, b :: bs =>
    if a = b then (2, a) :: merge fuel as bs
    else if a < b then (0, a) :: merge fuel as (b :: bs)
    else (1, b) :: merge fuel (a :: as) bs

/-- Compares two sorted files line by line. -/
def comm : Routine m := fun args =>
  withOptions { flags := ['1', '2', '3', 'z'] } 1 args fun given => do
    match given.operands with
    | [first, second] =>
      match ← readOperand first, ← readOperand second with
      | .error e, _ => do
        complainOf first e
        pure 1
      | _, .error e => do
        complainOf second e
        pure 1
      | .ok a, .ok b => do
        let a := (linesOf a).map chomp
        let b := (linesOf b).map chomp
        let hidden := ['1', '2', '3'].map given.has
        let shown := (merge (a.length + b.length + 1) a b).filter fun (column, _) =>
          !(hidden.getD column false)
        putLines (shown.map fun (column, line) =>
          let tabs := ((hidden.take column).filter (!·)).length
          String.ofList (List.replicate tabs '\t') ++ line)
        pure 0
    | [] => refuseUsage "missing operand" 1
    | [only] => refuseUsage ("missing operand after " ++ quote only) 1
    | _ :: _ :: extra :: _ => refuseUsage ("extra operand " ++ quote extra) 1

/-- Joins texts with delimiters that are used in turn. -/
def joinCycled (delimiters : List Octets) (texts : List Octets) : Octets :=
  match texts with
  | [] => ""
  | first :: rest =>
    let count := max delimiters.length 1
    first ++ String.join (rest.zipIdx.map fun (text, n) => delimiters.getD (n % count) "" ++ text)

/-- The delimiters that a list of them spells. -/
def readDelimiters : List Char → List Octets
  | '\\' :: 'n' :: rest => "\n" :: readDelimiters rest
  | '\\' :: 't' :: rest => "\t" :: readDelimiters rest
  | '\\' :: '0' :: rest => "" :: readDelimiters rest
  | '\\' :: '\\' :: rest => "\\" :: readDelimiters rest
  | c :: rest => String.singleton c :: readDelimiters rest
  | [] => []

/-- Joins lines of files, those with one number or those of one file. -/
def paste : Routine m := fun args =>
  let table : OptionTable :=
    { flags := ['s', 'z'], valued := ['d'], long := [("serial", 's'), ("delimiters", 'd')] }
  withOptions table 1 args fun given => do
    let delimiters := readDelimiters ((given.value? 'd').getD "\t").toList
    let paths := if given.operands = [] then ["-"] else given.operands
    let dashes := (paths.filter (· = "-")).length
    let input ← if dashes > 0 then takeInput else pure ""
    let read ← paths.mapM fun path => do
      if path = "-" then pure (path, Except.ok input) else return (path, ← readFile path)
    match firstFault? read with
    | some (path, e) => do
      complainOf path e
      pure 1
    | none => do
      let linesIn (text : Octets) := (linesOf text).map chomp
      let columns := (read.zipIdx).map fun ((path, result), n) =>
        let lines := linesIn (result.toOption.getD "")
        if path = "-" ∧ !given.has 's' then
          let before := ((paths.take n).filter (· = "-")).length
          lines.zipIdx.filterMap fun (line, k) =>
            if k % dashes = before then some line else none
        else lines
      if given.has 's' then
        putLines (columns.map (joinCycled delimiters))
      else
        let rows := (columns.map List.length).foldl max 0
        putLines ((List.range rows).map fun n =>
          joinCycled delimiters (columns.map fun lines => lines.getD n ""))
      pure 0

/-- Numbers lines. Empty lines have no number unless all lines are numbered. -/
def nl : Routine m := fun args =>
  withOptions { flags := ['p'], valued := ['b', 'v', 'w', 's', 'i', 'n', 'f', 'h', 'l', 'd'] } 1
    args fun given => do
    let number (c : Char) (otherwise : Nat) : Nat :=
      ((given.value? c).bind number?).getD otherwise
    let all := given.value? 'b' = some "a"
    let none' := given.value? 'b' = some "n"
    let separator := (given.value? 's').getD "\t"
    let width := number 'w' 6
    let (text, status) ← allOperands given.operands
    let (_, lines) := ((linesOf text).map chomp).foldl (fun (n, shown) line =>
      if (line = "" ∧ !all) ∨ none' then
        (n, (padLeft (width + separator.length) "" ++ line) :: shown)
      else (n + number 'i' 1, (padLeft width (toString n) ++ separator ++ line) :: shown))
      (number 'v' 1, ([] : List Octets))
    putLines lines.reverse
    pure status

end HybridTx.Program
