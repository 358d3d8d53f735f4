import HybridTx.Bytes.Basic
import HybridTx.Text.Blank
import HybridTx.Text.Quoted

/-! Hexadecimal text: two digits a byte, written in lower case and read in either case. -/

namespace HybridTx

/-- The UTF-8 bytes of a text. -/
def Bytes.ofString (text : String) : Bytes := text.toList.flatMap String.utf8EncodeChar

namespace Hex

/-- Why a text is not hexadecimal. Lengths and positions count bytes, so a byte of a character
outside ASCII is reported alone. -/
inductive Error
  | oddLength
  | invalidCharacter (byte : UInt8) (index : Nat)
deriving DecidableEq, Repr

/-- The wording of an error. A byte shows as the character with its number. -/
def Error.message : Error → String
  | .oddLength => "Odd number of digits"
  | .invalidCharacter byte index =>
    "Invalid character " ++ Text.quoteChar (Char.ofNat byte.toNat) ++ " at position "
      ++ toString index

/-- The two digits of a byte. -/
def encodeByte (byte : UInt8) : List Char :=
  [Nat.digitChar (byte.toNat / 16), Nat.digitChar (byte.toNat % 16)]

/-- The digits of a byte string. -/
def encodeChars (bytes : Bytes) : List Char := bytes.flatMap encodeByte

/-- The digits of a byte string. -/
def encode (bytes : Bytes) : String := String.ofList (encodeChars bytes)

/-- The value of a hexadecimal digit. -/
def digitValue? (byte : UInt8) : Option UInt8 :=
  if 48 ≤ byte ∧ byte ≤ 57 then some (byte - 48)
  else if 97 ≤ byte ∧ byte ≤ 102 then some (byte - 87)
  else if 65 ≤ byte ∧ byte ≤ 70 then some (byte - 55)
  else none

/-- Reads digit pairs onto the reversed bytes read so far; `index` is the position of the next
digit. -/
def decodePairs (index : Nat) (read : Bytes) : Bytes → Except Error Bytes
  | high :: low :: rest =>
    match digitValue? high with
    | none => .error (.invalidCharacter high index)
    | some h =>
      match digitValue? low with
      | none => .error (.invalidCharacter low (index + 1))
      | some l => decodePairs (index + 2) ((h * 16 + l) :: read) rest
  | [_] => .error .oddLength
  | [] => .ok read.reverse

/-- Reads a byte string of digits. An odd length is reported before any wrong digit. -/
def decodeBytes (digits : Bytes) : Except Error Bytes :=
  if digits.length % 2 = 1 then .error .oddLength else decodePairs 0 [] digits

/-- Reads hexadecimal text without a mark in front. -/
def decodeChars (digits : List Char) : Except Error Bytes :=
  decodeBytes (digits.flatMap String.utf8EncodeChar)

/-- Reads hexadecimal text without a mark in front. -/
def decode (digits : String) : Except Error Bytes := decodeChars digits.toList

/-- Reads hexadecimal text after one optional `0x`. -/
def decodeMarked (text : String) : Except Error Bytes :=
  decodeChars (Text.dropHexMark text.toList)

/-- The digits of a byte string after `0x`. -/
def encodeMarked (bytes : Bytes) : String := "0x" ++ encode bytes

/-- A byte as `0x` and two digits. -/
def byteLabel (byte : UInt8) : String := encodeMarked [byte]

end Hex

end HybridTx
