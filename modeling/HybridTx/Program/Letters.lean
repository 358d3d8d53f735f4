import HybridTx.Program.Basic
import HybridTx.Script.Pattern
import HybridTx.Text.Split

/-! Programs that look at the characters of lines: replacing them, taking columns, and folding. -/

namespace HybridTx.Program

variable {m : Type → Type} [Monad m]

/-! Replacing characters -/

/-- An item of a list of characters: characters in order, one repeated to fill the list, or a class
of letters. -/
inductive CharacterItem
  | characters (list : List Char)
  | repeated (c : Char)
deriving Repr

/-- The character behind a backslash. -/
def escaped : Char → Char
  | 'a' => '\x07'
  | 'b' => '\x08'
  | 'f' => '\x0c'
  | 'n' => '\n'
  | 'r' => '\r'
  | 't' => '\t'
  | 'v' => '\x0b'
  | c => c

/-- An octal digit. -/
def isOctal (c : Char) : Bool := '0' ≤ c && c ≤ '7'

/-- The number that octal digits spell, as a character. -/
def ofOctal (digits : List Char) : Char :=
  Char.ofNat (digits.foldl (fun n c => n * 8 + (c.toNat - 48)) 0 % 256)

/-- Replaces escapes. An escaped character has no special meaning. -/
def readEscapes : (fuel : Nat) → List Char → List (Char × Bool)
  | 0, _ | _, [] => []
  | fuel + 1, '\\' :: c :: rest =>
    if isOctal c then
      let digits := ((c :: rest).take 3).takeWhile isOctal
      (ofOctal digits, true) :: readEscapes fuel ((c :: rest).drop digits.length)
    else (escaped c, true) :: readEscapes fuel rest
  | fuel + 1, c :: rest => (c, false) :: readEscapes fuel rest

/-- All octets, in order. -/
def allOctets : List Char := (List.range 256).map Char.ofNat

/-- Reads a list of characters, or tells what is wrong with it. -/
def readCharacters : (fuel : Nat) → List (Char × Bool) → Except Octets (List CharacterItem)
  | 0, _ | _, [] => .ok []
  | fuel + 1, ('[', false) :: (':', false) :: rest => do
    let name := String.ofList ((rest.map Prod.fst).takeWhile (· ≠ ':'))
    match rest.drop name.length with
    | (':', _) :: (']', _) :: rest =>
      let members := allOctets.filter (Script.kindHolds name)
      if members = [] then .error ("invalid character class " ++ quote name)
      else return .characters members :: (← readCharacters fuel rest)
    | _ => return .characters ['['] :: (← readCharacters fuel ((':', true) :: rest))
  | fuel + 1, ('[', false) :: (c, quoted) :: ('*', false) :: rest => do
    let digits := (rest.map Prod.fst).takeWhile Char.isDigit
    match rest.drop digits.length with
    | (']', false) :: rest =>
      let count := if digits.head? = some '0' then
        digits.foldl (fun n c => n * 8 + (c.toNat - 48)) 0
        else ((String.ofList digits).toNat?).getD 0
      let item := if count = 0 then .repeated c else .characters (List.replicate count c)
      return item :: (← readCharacters fuel rest)
    | _ =>
      return .characters ['['] :: (← readCharacters fuel ((c, quoted) :: ('*', true) :: rest))
  | fuel + 1, (c, _) :: ('-', false) :: (d, _) :: rest => do
    if d < c then
      .error ("range-endpoints of " ++ quote (String.ofList [c, '-', d])
        ++ " are in reverse collating sequence order")
    else
      let range := (List.range (d.toNat - c.toNat + 1)).map fun n => Char.ofNat (c.toNat + n)
      return .characters range :: (← readCharacters fuel rest)
  | fuel + 1, (c, _) :: rest => return .characters [c] :: (← readCharacters fuel rest)

/-- The characters of items that fill a list of a given size. -/
def fillCharacters (items : List CharacterItem) (size : Nat) : List Char :=
  let known := (items.flatMap fun
    | .characters list => list
    | .repeated _ => []).length
  items.flatMap fun
    | .characters list => list
    | .repeated c => List.replicate (size - known) c

/-- Drops characters that repeat the one before, if they are of a kind. -/
def squeeze (kind : Char → Bool) (text : List Char) : List Char :=
  (text.foldl (fun kept c => match kept with
    | last :: _ => if last = c ∧ kind c then kept else c :: kept
    | [] => [c]) []).reverse

/-- Replaces, drops and squeezes characters of the input. -/
def tr : Routine m := fun args =>
  let table : OptionTable :=
    { flags := ['c', 'C', 'd', 's', 't'], anywhere := false
      long := [("complement", 'c'), ("delete", 'd'), ("squeeze-repeats", 's'),
        ("truncate-set1", 't')] }
  withOptions table 1 args fun given => do
    let deletes := given.has 'd'
    let squeezes := given.has 's'
    let usage (first : Octets) (second : Octets) : Act m Nat := do
      complain first
      if second ≠ "" then putError second
      putError "Try 'tr --help' for more information."
      pure 1
    let needsTwo := deletes == squeezes
    match given.operands with
    | [] => usage "missing operand" ""
    | [only] =>
      if needsTwo then
        usage ("missing operand after " ++ quote only)
          (if deletes then
            "Two strings must be given when both deleting and squeezing repeats."
          else "Two strings must be given when translating.")
      else run given only none
    | [first, second] =>
      if deletes ∧ !squeezes then
        usage ("extra operand " ++ quote second)
          "Only one string may be given when deleting without squeezing repeats."
      else run given first (some second)
    | _ :: _ :: extra :: _ => usage ("extra operand " ++ quote extra) ""
where
  /-- The items of a list of characters. -/
  items (text : Octets) : Except Octets (List CharacterItem) :=
    readCharacters (text.length + 1) (readEscapes (text.length + 1) text.toList)
  /-- Does what was asked for. -/
  run (given : Given) (first : Octets) (second? : Option Octets) : Act m Nat := do
    match items first, items (second?.getD "") with
    | .error problem, _ | _, .error problem => refuse problem 1
    | .ok first, .ok second => do
      let listed := fillCharacters first 0
      let complemented := given.has 'c' || given.has 'C'
      let from' := if complemented then allOctets.filter (· ∉ listed) else listed
      let images := fillCharacters second from'.length
      let translates := !given.has 'd' && second?.isSome
      if translates ∧ images = [] ∧ from' ≠ [] ∧ !given.has 't' then
        return ← refuse "when not truncating set1, string2 must be non-empty" 1
      let text := (← takeInput).toList
      if given.has 'd' then
        let text := text.filter (· ∉ from')
        let text := if given.has 's' then squeeze (· ∈ images) text else text
        put (String.ofList text)
      else if translates then
        let images := if given.has 't' then images
          else images ++ List.replicate (from'.length - images.length) (images.getLast?.getD ' ')
        let pairs := (from'.zip images).reverse
        let text := text.map fun c => (pairs.lookup c).getD c
        let text := if given.has 's' then squeeze (· ∈ images) text else text
        put (String.ofList text)
      else put (String.ofList (squeeze (· ∈ from') text))
      pure 0

/-! Columns -/

/-- A range of columns, which may be open at its end. -/
abbrev ColumnRange := Nat × Option Nat

/-- Reads ranges of columns, or tells what is wrong with them. -/
def readRanges (fields : Bool) (text : Octets) : Except Octets (List ColumnRange) :=
  (Text.splitAt ',' (text.map fun c => if c = ' ' then ',' else c).toList).mapM fun part => do
    let (first, last?) := Text.cutAt '-' part
    let bad (item : List Char) : Octets :=
      if item.contains '-' then
        if fields then "invalid field range" else "invalid byte or character range"
      else if fields then "invalid field value " ++ quote (String.ofList item)
      else "invalid byte/character position " ++ quote (String.ofList item)
    let read (digits : List Char) : Except Octets Nat :=
      match number? (String.ofList digits) with
      | some 0 => .error (if fields then "fields are numbered from 1"
          else "byte/character positions are numbered from 1")
      | some n => .ok n
      | none => .error (bad digits)
    match first, last? with
    | [], none => .error (if fields then "fields are numbered from 1"
        else "byte/character positions are numbered from 1")
    | first, none => do
      let n ← read first
      .ok (n, some n)
    | [], some [] => .error "invalid range with no endpoint: -"
    | first, some last => do
      let low ← if first = [] then pure 1 else read first
      let high ← if last = [] then pure none else (read last).map some
      match high with
      | some high => if high < low then .error "invalid decreasing range" else .ok (low, some high)
      | none => .ok (low, none)

/-- The column is in one of the ranges. -/
def inRanges (ranges : List ColumnRange) (column : Nat) : Bool :=
  ranges.any fun (low, high?) => low ≤ column && match high? with
    | some high => column ≤ high
    | none => true

/-- Takes columns or fields of lines. -/
def cut : Routine m := fun args =>
  let table : OptionTable :=
    { flags := ['s', 'n', 'z', 'C'], valued := ['b', 'c', 'f', 'd', 'O']
      long := [("bytes", 'b'), ("characters", 'c'), ("fields", 'f'), ("delimiter", 'd'),
        ("only-delimited", 's'), ("complement", 'C'), ("output-delimiter", 'O'),
        ("zero-terminated", 'z')] }
  withOptions table 1 args fun given => do
    let lists := given.options.filter fun (c, _) => c ∈ ['b', 'c', 'f']
    match lists with
    | [] => refuseUsage "you must specify a list of bytes, characters, or fields" 1
    | _ :: _ :: _ => refuseUsage "only one list may be specified" 1
    | [(kind, text)] =>
      let fields := kind == 'f'
      let delimiter := (given.value? 'd').getD "\t"
      if given.has 'd' ∧ !fields then
        refuseUsage "an input delimiter may be specified only when operating on fields" 1
      else if given.has 's' ∧ !fields then
        refuseUsage ("suppressing non-delimited lines makes sense\n\tonly when operating on fields")
          1
      else if delimiter.length > 1 then
        refuseUsage "the delimiter must be a single character" 1
      else
        match readRanges fields text with
        | .error problem => refuseUsage problem 1
        | .ok ranges =>
          let chosen (column : Nat) : Bool := inRanges ranges column != given.has 'C'
          let mark := delimiter.toList.headD '\x00'
          let joint := (given.value? 'O').getD delimiter
          eachOperand given.operands fun _ text => do
            let shown := (linesOf text).filterMap fun line =>
              let body := (chomp line).toList
              if fields then
                let parts := Text.splitAt mark body
                if parts.length = 1 then
                  if given.has 's' then none else some (String.ofList body)
                else
                  let kept := parts.zipIdx.filter fun (_, n) => chosen (n + 1)
                  some (joint.intercalate (kept.map fun (part, _) => String.ofList part))
              else
                let kept := body.zipIdx.filter fun (_, n) => chosen (n + 1)
                some (String.ofList (kept.map Prod.fst))
            putLines shown

/-! Folding -/

/-- Breaks a line into pieces of a width, behind a blank if there is one and `atBlanks` holds. -/
def foldLine (width : Nat) (atBlanks : Bool) : (fuel : Nat) → List Char → List (List Char)
  | 0, text => [text]
  | fuel + 1, text =>
    if text.length ≤ width then [text]
    else
      let piece := text.take width
      let kept := (piece.reverse.dropWhile (· ≠ ' ')).reverse
      let piece := if atBlanks ∧ kept ≠ [] then kept else piece
      piece :: foldLine width atBlanks fuel (text.drop piece.length)

/-- Breaks long lines. -/
def fold : Routine m := fun args =>
  let table : OptionTable :=
    { flags := ['b', 's', 'c'], valued := ['w']
      long := [("width", 'w'), ("spaces", 's'), ("bytes", 'b')] }
  withOptions table 1 (args.flatMap digits) fun given => do
    let text := (given.value? 'w').getD "80"
    match number? text with
    | none | some 0 => refuse ("invalid number of columns: " ++ quote text) 1
    | some width =>
      eachOperand given.operands fun _ text =>
        put (String.join ((linesOf text).map fun line =>
          let body := (chomp line).toList
          let pieces := foldLine width (given.has 's') (body.length + 1) body
          "\n".intercalate (pieces.map String.ofList) ++ if line.endsWith "\n" then "\n" else ""))
where
  /-- A width in place of an option. -/
  digits (arg : Octets) : List Octets :=
    match arg.toList with
    | '-' :: c :: rest => if (c :: rest).all Char.isDigit then ["-w" ++ String.ofList (c :: rest)]
      else [arg]
    | _ => [arg]

end HybridTx.Program
