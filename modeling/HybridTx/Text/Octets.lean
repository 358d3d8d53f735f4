import HybridTx.Text.Utf8

/-! Texts of octets: every character stands for one byte. Scripts and the programs that they run
look at texts in this way, whatever the texts spell. -/

namespace HybridTx

/-- A text in which each character is the byte with its number. -/
abbrev Octets := String

namespace Octets

/-- The octets of a byte string. -/
def ofBytes (bytes : Bytes) : Octets :=
  String.ofList (bytes.map fun byte => Char.ofNat byte.toNat)

/-- The byte string of octets. -/
def toBytes (octets : Octets) : Bytes := octets.toList.map fun c => UInt8.ofNat c.toNat

/-- The octets that spell a text. -/
def ofText (text : String) : Octets := ofBytes (Bytes.ofString text)

/-- The text that octets spell. -/
def toText (octets : Octets) : String := Utf8.decodeLenient octets.toBytes

end Octets

end HybridTx
