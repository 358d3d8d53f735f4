import HybridTx.Rlp.Encode

/-! The decoder. It accepts only what the encoder writes: every length in its shortest form, no
header on a byte that is its own encoding, no nesting past `maxDepth`. -/

namespace HybridTx.Rlp

/-- One more than the largest length of a byte string in memory. -/
def lengthBound : Nat := 2 ^ 64

/-- Takes up one more byte of a length field. -/
def appendLengthByte (length : Nat) (byte : UInt8) : Except Error Nat :=
  if length * 256 + byte.toNat < lengthBound then .ok (length * 256 + byte.toNat)
  else .error .lengthOverflow

/-- Reads a length field of `width` bytes and returns the bytes behind it. A field may not start
with zero, nor hold a length that fits the header byte. -/
def decodeLongLength (width : Nat) (input : Bytes) : Except Error (Nat × Bytes) :=
  let field := input.take width
  if field.length < width then .error .unexpectedEnd
  else if field.head? = some 0 then .error .nonCanonicalLength
  else do
    let length ← field.foldlM appendLengthByte 0
    if length < shortLimit then .error .nonCanonicalLength
    else .ok (length, input.drop width)

/-- Splits off a payload of `length` bytes that lies `start` bytes behind its header byte. -/
def splitPayload (start length : Nat) (input : Bytes) : Except Error (Bytes × Bytes) :=
  if start + length ≥ lengthBound then .error .lengthOverflow
  else
    let payload := input.take length
    if payload.length < length then .error .unexpectedEnd
    else .ok (payload, input.drop length)

/-- Reads items until the input is used up, onto the reversed items read so far. Each item takes
at least one byte, so a bound of the input's length is never reached. -/
def readItems (read : Bytes → Except Error (Item × Bytes)) :
    (bound : Nat) → (items : List Item) → Bytes → Except Error (List Item)
  | _, items, [] => .ok items.reverse
  | 0, _, _ :: _ => .error .unexpectedEnd
  | bound + 1, items, input@(_ :: _) =>
    match read input with
    | .error e => .error e
    | .ok (item, rest) => readItems read bound (item :: items) rest

/-- Splits off a payload whose header is complete and reads it as a list. -/
def decodeListPayload (read : Bytes → Except Error (Item × Bytes)) (start length : Nat)
    (input : Bytes) : Except Error (Item × Bytes) := do
  let (payload, rest) ← splitPayload start length input
  let items ← readItems read length [] payload
  .ok (.list items, rest)

/-- Reads one item from the front of the input when `levels` levels of nesting are left. -/
def decodeItem : (levels : Nat) → Bytes → Except Error (Item × Bytes)
  | 0, _ => .error .tooDeep
  | _ + 1, [] => .error .emptyInput
  | levels + 1, first :: input =>
    if first < 0x80 then .ok (.bytes [first], input)
    else if first < 0xb8 then do
      let (payload, rest) ← splitPayload 1 (first - 0x80).toNat input
      match payload with
      | [byte] => if byte < stringOffset then .error .wrappedByte else .ok (.bytes payload, rest)
      | _ => .ok (.bytes payload, rest)
    else if first < 0xc0 then do
      let width := (first - 0xb7).toNat
      let (length, input) ← decodeLongLength width input
      let (payload, rest) ← splitPayload (1 + width) length input
      .ok (.bytes payload, rest)
    else if first < 0xf8 then
      decodeListPayload (decodeItem levels) 1 (first - 0xc0).toNat input
    else do
      let width := (first - 0xf7).toNat
      let (length, input) ← decodeLongLength width input
      decodeListPayload (decodeItem levels) (1 + width) length input

/-- Reads one item from the front of the input and returns it with the bytes behind it. -/
def decode (input : Bytes) : Except Error (Item × Bytes) := decodeItem (maxDepth + 1) input

/-- Reads an item that takes up the whole input. -/
def decodeExact (input : Bytes) : Except Error Item := do
  let (item, rest) ← decode input
  if rest.isEmpty then .ok item else .error .trailingBytes

end HybridTx.Rlp
