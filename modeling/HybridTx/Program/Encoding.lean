import HybridTx.Hash.Sha256
import HybridTx.Program.Basic

/-! Programs that show bytes in other forms: digits, letters of a code, and digests. -/

namespace HybridTx.Program

variable {m : Type → Type} [Monad m]

/-! Letters of a code -/

/-- A code that writes bytes as groups of letters, each of which stands for some bits. -/
structure LetterCode where
  letters : List Char
  bits : Nat
  /-- Bytes in a group. -/
  groupBytes : Nat
  /-- Letters in a group. -/
  groupLetters : Nat

/-- The code with 64 letters. -/
def base64Code : LetterCode :=
  ⟨"ABCDEFGHIJKLMNOPQRSTUVWXYZabcdefghijklmnopqrstuvwxyz0123456789+/".toList, 6, 3, 4⟩

/-- The code with 32 letters. -/
def base32Code : LetterCode := ⟨"ABCDEFGHIJKLMNOPQRSTUVWXYZ234567".toList, 5, 5, 8⟩

namespace LetterCode

variable (code : LetterCode)

/-- The letters of a group, filled up with signs that stand for nothing. -/
def encodeGroup (group : List Char) : List Char :=
  let filled := group ++ List.replicate (code.groupBytes - group.length) '\x00'
  let value := filled.foldl (fun n c => n * 256 + c.toNat) 0
  let used := (group.length * 8 + code.bits - 1) / code.bits
  (List.range code.groupLetters).map fun k =>
    if k < used then
      code.letters.getD (value / 2 ^ (code.bits * (code.groupLetters - 1 - k)) % 2 ^ code.bits) '='
    else '='

/-- The letters of a text. -/
def encode : (fuel : Nat) → List Char → List Char
  | 0, _ | _, [] => []
  | fuel + 1, text =>
    code.encodeGroup (text.take code.groupBytes) ++ encode fuel (text.drop code.groupBytes)

/-- The bytes of letters, and whether all of them were in order. -/
def decode : (fuel : Nat) → List Char → List Char × Bool
  | 0, _ => ([], true)
  | _, [] => ([], true)
  | fuel + 1, text =>
    let group := text.take code.groupLetters
    let body := group.takeWhile (· ≠ '=')
    let values := body.map fun c => code.letters.idxOf? c
    if values.any Option.isNone then
      let good := body.takeWhile (code.letters.contains ·)
      (bytes good, false)
    else
      let fine := group.length = code.groupLetters ∧ (group.drop body.length).all (· = '=')
      if !fine then (bytes body, false)
      else
        let (rest, good) := decode fuel (text.drop code.groupLetters)
        (bytes body ++ rest, good)
where
  /-- The whole bytes in the bits of letters. -/
  bytes (letters : List Char) : List Char :=
    let bits := letters.length * code.bits
    let value := letters.foldl (fun n c =>
      n * 2 ^ code.bits + (code.letters.idxOf? c).getD 0) 0
    let count := bits / 8
    let value := value / 2 ^ (bits - count * 8)
    (List.range count).map fun k => Char.ofNat (value / 256 ^ (count - 1 - k) % 256)

end LetterCode

/-- Breaks a text into lines of a width; no width leaves it in one piece. -/
def wrap (width : Nat) (text : List Char) : Octets :=
  if width = 0 then String.ofList text
  else go (text.length + 1) text
where
  /-- Goes on with what is left. -/
  go : (fuel : Nat) → List Char → Octets
    | 0, _ | _, [] => ""
    | fuel + 1, text => String.ofList (text.take width) ++ "\n" ++ go fuel (text.drop width)

/-- Writes a file in a code, or reads it back. -/
def encodeWith (code : LetterCode) : Routine m := fun args =>
  let table : OptionTable :=
    { flags := ['d', 'i'], valued := ['w']
      long := [("decode", 'd'), ("ignore-garbage", 'i'), ("wrap", 'w')] }
  withOptions table 1 args fun given => do
    let width := (given.value? 'w').getD "76"
    match number? width, given.operands with
    | none, _ => refuse ("invalid wrap size: " ++ quote width) 1
    | _, _ :: extra :: _ => refuseUsage ("extra operand " ++ quote extra) 1
    | some width, operands => do
      let path := operands.headD "-"
      match ← readOperand path with
      | .error .isDirectory => refuse "read error: Is a directory" 1
      | .error e => do
        complainOf path e
        pure 1
      | .ok text =>
        let text := text.toList
        if given.has 'd' then
          let text := text.filter (· ≠ '\n')
          let text := if given.has 'i' then
            text.filter fun c => c = '=' || code.letters.contains c else text
          let (bytes, good) := code.decode (text.length + 1) text
          put (String.ofList bytes)
          if good then pure 0 else refuse "invalid input" 1
        else do
          put (wrap width (code.encode (text.length + 1) text))
          pure 0

/-! Digests -/

/-- Shows a digest of each file, made by a given function. -/
def digestWith (title : String) (digest : Bytes → Bytes) : Routine m := fun args =>
  let table : OptionTable :=
    { flags := ['b', 't', 'z', 'g', 'q', 's'], valued := []
      long := [("binary", 'b'), ("text", 't'), ("zero", 'z'), ("tag", 'g'), ("quiet", 'q'),
        ("status", 's')] }
  withOptions table 1 args fun given =>
    eachOperand given.operands fun path text =>
      let shown := Octets.ofText (Hex.encode (digest text.toBytes))
      put (if given.has 'g' then title ++ " (" ++ path ++ ") = " ++ shown ++ "\n"
        else shown ++ (if given.has 'b' then " *" else "  ") ++ path ++ "\n")

/-! Digits -/

/-- How the units of a dump are shown. -/
inductive DumpStyle
  | number (base size : Nat) (signed : Bool)
  | character
  | named

/-- The digits of a number in a base, filled up with zeros. -/
def digitsOf (base width n : Nat) : Octets :=
  let digits := String.ofList (Nat.toDigits base n)
  String.ofList (List.replicate (width - digits.length) '0') ++ digits

namespace DumpStyle

/-- Bytes in a unit. -/
def size : DumpStyle → Nat
  | number _ size _ => size
  | _ => 1

/-- The columns of a unit, with the blank before it. -/
def width : DumpStyle → Nat
  | number base size signed =>
    let digits := match base, size with
      | 16, n => 2 * n
      | 8, 1 => 3
      | 8, 2 => 6
      | 8, 4 => 11
      | 8, _ => 22
      | _, 1 => 3
      | _, 2 => 5
      | _, 4 => 10
      | _, _ => 20
    digits + 1 + if signed then 1 else 0
  | _ => 4

/-- A byte as a character, or as what is written for it. -/
def showByte (n : Nat) : Octets :=
  match n with
  | 0 => "\\0"
  | 7 => "\\a"
  | 8 => "\\b"
  | 9 => "\\t"
  | 10 => "\\n"
  | 11 => "\\v"
  | 12 => "\\f"
  | 13 => "\\r"
  | n => if 32 ≤ n ∧ n < 127 then String.singleton (Char.ofNat n) else digitsOf 8 3 n

/-- The names of the characters without a look. -/
def controlNames : List String :=
  ["nul", "soh", "stx", "etx", "eot", "enq", "ack", "bel", "bs", "ht", "nl", "vt", "ff", "cr", "so",
    "si", "dle", "dc1", "dc2", "dc3", "dc4", "nak", "syn", "etb", "can", "em", "sub", "esc", "fs",
    "gs", "rs", "us", "sp"]

/-- A unit. -/
def cell (style : DumpStyle) (unit : List Char) : Octets :=
  let value := unit.reverse.foldl (fun n c => n * 256 + c.toNat) 0
  match style with
  | number base _ true =>
    let limit := 256 ^ style.size
    if value * 2 ≥ limit then "-" ++ toString (limit - value)
    else String.ofList (Nat.toDigits base value)
  | number 10 _ false => toString value
  | number base _ false => digitsOf base (style.width - 1) value
  | character => showByte value
  | named =>
    let n := value % 128
    if n = 127 then "del" else controlNames.getD n (String.singleton (Char.ofNat n))

/-- A line of units. -/
def row (style : DumpStyle) : (fuel : Nat) → List Char → Octets
  | 0, _ | _, [] => ""
  | fuel + 1, bytes =>
    padLeft style.width (style.cell (bytes.take style.size)) ++
      row style fuel (bytes.drop style.size)

/-- Reads the name of a style. -/
def ofName? (name : List Char) : Option DumpStyle :=
  let size (rest : List Char) (otherwise : Nat) : Option Nat :=
    match rest with
    | [] => some otherwise
    | ['C'] => some 1
    | ['S'] => some 2
    | ['I'] => some 4
    | ['L'] => some 8
    | digits => (number? (String.ofList digits)).filter fun n => n ∈ [1, 2, 4, 8]
  match name.filter (· ≠ 'z') with
  | ['c'] => some .character
  | ['a'] => some .named
  | 'x' :: rest => (size rest 4).map fun n => .number 16 n false
  | 'o' :: rest => (size rest 4).map fun n => .number 8 n false
  | 'u' :: rest => (size rest 4).map fun n => .number 10 n false
  | 'd' :: rest => (size rest 4).map fun n => .number 10 n true
  | _ => none

end DumpStyle

/-- The lines of a dump. A line that repeats the one before is left out, and a star stands for all
that are left out, unless all lines are wanted. -/
def dumpLines (address : Nat → Octets) (style : DumpStyle) (width : Nat) (all : Bool) :
    (fuel : Nat) → (offset : Nat) → (before : List Char) → (starred : Bool) → List Char →
    List Octets
  | 0, _, _, _, _ | _, _, _, _, [] => []
  | fuel + 1, offset, before, starred, bytes =>
    let line := bytes.take width
    let rest := bytes.drop width
    if line = before ∧ !all ∧ line.length = width then
      let more := dumpLines address style width all fuel (offset + width) line true rest
      if starred then more else "*" :: more
    else
      (address offset ++ style.row (line.length + 1) line)
        :: dumpLines address style width all fuel (offset + width) line false rest

/-- Shows files as digits or characters. -/
def od : Routine m := fun args =>
  let table : OptionTable :=
    { flags := ['b', 'c', 'd', 'o', 's', 'x', 'v', 'a', 'i', 'l']
      valued := ['A', 't', 'N', 'j', 'w']
      long := [("address-radix", 'A'), ("format", 't'), ("read-bytes", 'N'), ("skip-bytes", 'j'),
        ("width", 'w'), ("output-duplicates", 'v')] }
  withOptions table 1 args fun given => do
    let types := given.options.filterMap fun (c, value) => if c = 't' then some value else none
    if let some bad := types.find? fun name => (DumpStyle.ofName? name.toList).isNone then
      return ← refuse ("invalid character " ++ quote (bad.take 1).toString ++ " in type string "
        ++ quote bad) 1
    let style := given.options.foldl (fun style (c, value) => match c with
      | 'b' => .number 8 1 false
      | 'c' => .character
      | 'a' => .named
      | 'd' => .number 10 2 false
      | 'o' => .number 8 2 false
      | 's' => .number 10 2 true
      | 'i' => .number 10 4 true
      | 'l' => .number 10 8 true
      | 'x' => .number 16 2 false
      | 't' => (DumpStyle.ofName? value.toList).getD style
      | _ => style) (DumpStyle.number 8 2 false)
    let (text, status) ← allOperands given.operands
    let skip := ((given.value? 'j').bind count?).getD 0
    let bytes := text.toList.drop skip
    let bytes := match (given.value? 'N').bind count? with
      | some count => bytes.take count
      | none => bytes
    let width := max 1 (((given.value? 'w').bind number?).getD 16)
    let address (offset : Nat) : Octets :=
      match given.value? 'A' with
      | some "n" => ""
      | some "d" => digitsOf 10 7 offset
      | some "x" => digitsOf 16 6 offset
      | _ => digitsOf 8 7 offset
    let lines :=
      dumpLines address style width (given.has 'v') (bytes.length + 1) skip [] false bytes
    let last := address (skip + bytes.length)
    putLines (if last = "" ∨ (status ≠ 0 ∧ bytes = []) then lines else lines ++ [last])
    pure status

end HybridTx.Program
