import HybridTx.Rlp.Item

/-! The encoder. A payload follows a header with its length; a payload of fewer than 56 bytes has a
header of one byte, and a byte below 0x80 is its own encoding. -/

namespace HybridTx.Rlp

/-- Header offset of byte strings. -/
def stringOffset : UInt8 := 0x80

/-- Header offset of lists. -/
def listOffset : UInt8 := 0xc0

/-- Payloads shorter than this have a header of one byte. -/
def shortLimit : Nat := 56

/-- The header of a payload of `length` bytes. The two offsets keep strings and lists apart. -/
def encodeLength (length : Nat) (offset : UInt8) : Bytes :=
  if length < shortLimit then [offset + UInt8.ofNat length]
  else
    let digits := Bytes.ofNat length
    (offset + 55 + UInt8.ofNat digits.length) :: digits

/-- A byte string behind its header, unless it is one byte below 0x80. -/
def encodeBytes (payload : Bytes) : Bytes :=
  match payload with
  | [byte] => if byte < stringOffset then [byte] else encodeLength 1 stringOffset ++ [byte]
  | _ => encodeLength payload.length stringOffset ++ payload

/-- A number as the shortest byte string with its value. -/
def encodeScalar (value : Nat) : Bytes := encodeBytes (Bytes.ofNat value)

/-- The eight bytes of a word without leading zeros. -/
def wordDigits (word : UInt64) : Bytes := (Bytes.bigEndian 8 word.toNat).dropWhile (· == 0)

/-- A 64-bit number as the shortest byte string with its value. -/
def encodeWord (word : UInt64) : Bytes := encodeBytes (wordDigits word)

/-- A list of items that are encoded already. -/
def encodeList (items : List Bytes) : Bytes :=
  let payload := items.flatten
  encodeLength payload.length listOffset ++ payload

namespace Item

mutual

/-- The encoding of a value. -/
def encode : Item → Bytes
  | .bytes payload => encodeBytes payload
  | .list items => encodeList (encodeAll items)

/-- The encodings of the items of a list. -/
def encodeAll : List Item → List Bytes
  | [] => []
  | item :: items => item.encode :: encodeAll items

end

mutual

/-- The largest number of lists around a value inside `item`. -/
def depth : Item → Nat
  | .bytes _ => 0
  | .list items => depthAll items

/-- One more than the depth of the deepest item; zero for no items. -/
def depthAll : List Item → Nat
  | [] => 0
  | item :: items => max (item.depth + 1) (depthAll items)

end

end Item

end HybridTx.Rlp
