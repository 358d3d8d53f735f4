import HybridTx.Script.Pattern

/-! Cutting what words stand for into fields. -/

namespace HybridTx.Script

/-- A part of what a word stands for: a letter, at which fields may be cut unless it was written
so; quotes, which make a field even if nothing is in them; or the end of a field. -/
inductive Cell
  | letter (letter : Letter) (cuttable : Bool)
  | hold
  | cut
deriving DecidableEq, Repr

namespace Cell

/-- The cells of a text. -/
def ofText (text : Octets) (quoted cuttable : Bool) : List Cell :=
  text.toList.map fun c => .letter (c, quoted) cuttable

/-- The letters of cells. -/
def letters (cells : List Cell) : List Letter :=
  cells.filterMap fun
    | .letter l _ => some l
    | _ => none

/-- The text of cells. -/
def toText (cells : List Cell) : Octets := String.ofList ((letters cells).map Prod.fst)

end Cell

/-- Blanks among the characters that part fields: several of them part as one. -/
def isBlankSeparator (c : Char) : Bool := c ∈ [' ', '\t', '\n']

/-- The fields so far, the last first, the one that is open, and whether blanks have just ended
one. -/
structure Fields where
  closed : List (List Letter) := []
  current : Option (List Letter) := none
  afterBlank : Bool := false

namespace Fields

/-- Ends the open field. -/
def close (fields : Fields) (afterBlank : Bool) : Fields :=
  match fields.current with
  | some letters => { closed := letters.reverse :: fields.closed, afterBlank }
  | none => { fields with afterBlank := fields.afterBlank && afterBlank }

/-- Goes on with a cell. A separator that is no blank ends a field even if it is empty. -/
def add (separators : List Char) (fields : Fields) : Cell → Fields
  | .cut => fields.close false
  | .hold => { fields with current := some (fields.current.getD []), afterBlank := false }
  | .letter (c, quoted) cuttable =>
    if cuttable ∧ !quoted ∧ c ∈ separators then
      if isBlankSeparator c then fields.close true
      else if fields.current.isNone ∧ fields.afterBlank then { fields with afterBlank := false }
      else ({ fields with current := some (fields.current.getD []) } : Fields).close false
    else
      { fields with current := some ((c, quoted) :: fields.current.getD []), afterBlank := false }

/-- The fields of cells. -/
def ofCells (separators : List Char) (cells : List Cell) : List (List Letter) :=
  ((cells.foldl (add separators) {}).close false).closed.reverse

end Fields

/-- Reads a line into a given number of texts. Blanks around texts do not count; what is left for
the last text keeps its separators. -/
def splitLine (separators : List Char) : (count : Nat) → List Letter → List Octets
  | 0, _ => []
  | 1, letters => [lastText letters]
  | count + 1, letters =>
    let start := letters.dropWhile isBlank
    let text := start.takeWhile fun letter => !isSeparator letter
    let behind := start.drop text.length
    let blanks := behind.takeWhile isBlank
    let rest := behind.drop blanks.length
    let rest := match rest with
      | letter :: more => if isSeparator letter then more else rest
      | [] => []
    String.ofList (text.map Prod.fst) :: splitLine separators count rest
where
  /-- A letter that parts texts. -/
  isSeparator (letter : Letter) : Bool := !letter.2 && letter.1 ∈ separators
  /-- A blank that parts texts. -/
  isBlank (letter : Letter) : Bool := isSeparator letter && isBlankSeparator letter.1
  /-- Drops blanks from the end. -/
  trimEnd (letters : List Letter) : List Letter := (letters.reverse.dropWhile isBlank).reverse
  /-- The last text takes all, except for a single separator at its end. -/
  lastText (letters : List Letter) : Octets :=
    let body := trimEnd (letters.dropWhile isBlank)
    let body := match body.reverse with
      | letter :: before =>
        let shorter := trimEnd before.reverse
        if isSeparator letter ∧ !shorter.any isSeparator then shorter else body
      | [] => []
    String.ofList (body.map Prod.fst)

end HybridTx.Script
