import HybridTx.Bytes.Basic

/-! The values of the recursive length-prefix format, and the reasons to refuse a byte string as
one. -/

namespace HybridTx.Rlp

/-- A value of the format: a byte string, or a list of values. -/
inductive Item
  | bytes (payload : Bytes)
  | list (items : List Item)
deriving Repr, BEq

/-- A value may be nested in at most this many lists. -/
def maxDepth : Nat := 16

/-- Why a byte string, or a value, is refused. -/
inductive Error
  | emptyInput
  | unexpectedEnd
  | nonCanonicalLength
  | wrappedByte
  | leadingZero
  | scalarOverflow (bytes max : Nat)
  | lengthOverflow
  | tooDeep
  | expectedList
  | expectedString
  | trailingBytes
deriving DecidableEq, Repr

/-- The wording of an error. -/
def Error.message : Error → String
  | .emptyInput => "empty input"
  | .unexpectedEnd => "unexpected end of input"
  | .nonCanonicalLength => "non-canonical length header"
  | .wrappedByte => "single byte below 0x80 wrapped in a string header"
  | .leadingZero => "scalar has a leading zero byte"
  | .scalarOverflow bytes max => s!"scalar of {bytes} bytes exceeds {max} bytes"
  | .lengthOverflow => "length field overflows"
  | .tooDeep => s!"nesting exceeds {maxDepth} levels"
  | .expectedList => "expected list, found string"
  | .expectedString => "expected string, found list"
  | .trailingBytes => "trailing bytes after item"

namespace Item

/-- The payload of a byte string. -/
def asBytes : Item → Except Error Bytes
  | .bytes payload => .ok payload
  | .list _ => .error .expectedString

/-- The items of a list. -/
def asList : Item → Except Error (List Item)
  | .list items => .ok items
  | .bytes _ => .error .expectedList

/-- The payload of a byte string that may stand for a number: its first byte is not zero. -/
def asDigits (item : Item) : Except Error Bytes := do
  let payload ← item.asBytes
  if payload.head? = some 0 then .error .leadingZero else .ok payload

/-- The number that a byte string stands for. -/
def asScalar (item : Item) : Except Error Nat := do
  let digits ← item.asDigits
  .ok digits.toNat

/-- The 64-bit number that a byte string stands for. -/
def asWord (item : Item) : Except Error UInt64 := do
  let digits ← item.asDigits
  if digits.length > 8 then .error (.scalarOverflow digits.length 8)
  else .ok (digits.foldl (fun word byte => word <<< 8 ||| byte.toUInt64) 0)

end Item

end HybridTx.Rlp
