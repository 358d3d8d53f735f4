import HybridTx.Json.Reader
import HybridTx.PostQuantum.Algorithm
import HybridTx.Transaction.Signed

/-! The JSON forms of the value types, and the forms in which they show in diagnostics. Byte strings
of a fixed length are arrays of numbers, and the cases of an enumeration are their names. -/

namespace HybridTx

namespace Json

/-- A number from 0 to 255 that is written in plain digits. -/
def byte? : Json → Option UInt8
  | .number digits =>
    if digits.all Char.isDigit then
      let value := digits.foldl (fun value c => value * 10 + (c.toNat - 48)) 0
      if value < 256 then some (UInt8.ofNat value) else none
    else none
  | _ => none

/-- An array of exactly `size` bytes. -/
def fixedBytes? (size : Nat) : Json → Option (FixedBytes size)
  | .array items => do FixedBytes.ofBytes? size (← items.mapM byte?)
  | _ => none

/-- An array of bytes. -/
def ofBytes (bytes : Bytes) : Json := .array (bytes.map fun byte => ofNat byte.toNat)

/-- The only member with a given name; none if it is missing or repeated. -/
def member? (name : String) (members : List (Option String × Json)) : Option Json :=
  match members.filter (·.1 == some name) with
  | [(_, value)] => some value
  | _ => none

/-- The name of a case: a string, or the only member of an object, with a null behind it. -/
def caseName? : Json → Option String
  | .string content => content
  | .object [(content, .null)] => content
  | _ => none

end Json

namespace Address

/-- Reads an array of 20 bytes. -/
def ofJson? (value : Json) : Option Address := (value.fixedBytes? 20).map Address.mk

/-- An array of 20 bytes. -/
def toJson (address : Address) : Json := .ofBytes address.bytes

/-- How an address shows in diagnostics. -/
def describe (address : Address) : String := "Address(" ++ address.display ++ ")"

end Address

namespace TxHash

/-- Reads an array of 32 bytes. -/
def ofJson? (value : Json) : Option TxHash := (value.fixedBytes? 32).map TxHash.mk

/-- An array of 32 bytes. -/
def toJson (hash : TxHash) : Json := .ofBytes hash.bytes

/-- How a hash shows in diagnostics: its first 16 digits. -/
def describe (hash : TxHash) : String := "TxHash(" ++ Hex.encode (hash.bytes.take 8) ++ ")"

end TxHash

namespace AccessEntry

/-- Reads an object with the two members, or an array of the two values. Other members do not
matter. A member whose name is no text is refused. -/
def ofJson? : Json → Option AccessEntry
  | .object members => do
    if members.any (·.1.isNone) then none
    build (← Json.member? "address" members) (← Json.member? "storage_keys" members)
  | .array [address, keys] => build address keys
  | _ => none
where
  /-- Reads both values. -/
  build (address keys : Json) : Option AccessEntry := do
    match keys with
    | .array keys => some ⟨← Address.ofJson? address, ← keys.mapM (Json.fixedBytes? 32)⟩
    | _ => none

/-- An object with the two members. -/
def toJson (entry : AccessEntry) : Json :=
  .ofMembers [("address", entry.address.toJson),
    ("storage_keys", .array (entry.storageKeys.map fun key => .ofBytes key.bytes))]

/-- Texts in brackets with commas between them. -/
def bracketed (texts : List String) : String := "[" ++ ", ".intercalate texts ++ "]"

/-- How an entry shows in diagnostics. -/
def describe (entry : AccessEntry) : String :=
  "AccessListEntry \x7b address: " ++ entry.address.describe ++ ", storage_keys: "
    ++ bracketed (entry.storageKeys.map fun key =>
      bracketed (key.bytes.map fun byte => toString byte.toNat)) ++ " \x7d"

end AccessEntry

namespace SignatureMode

/-- The name of a mode in records. -/
def recordName : SignatureMode → String
  | hybrid => "hybrid"
  | classicalOnly => "classical_only"

/-- Reads the name of a mode. -/
def ofJson? (value : Json) : Option SignatureMode := do
  let name ← value.caseName?
  [hybrid, classicalOnly].find? (·.recordName == name)

/-- The name of a mode. -/
def toJson (mode : SignatureMode) : Json := .ofString mode.recordName

/-- How a mode shows in diagnostics. -/
def describe : SignatureMode → String
  | hybrid => "Hybrid"
  | classicalOnly => "ClassicalOnly"

end SignatureMode

namespace PqAlgorithm

/-- Reads the name of an algorithm, which must be in its plain form. -/
def ofJson? (value : Json) : Option PqAlgorithm := do
  let name ← value.caseName?
  all.find? (·.name == name)

/-- The name of an algorithm. -/
def toJson (algorithm : PqAlgorithm) : Json := .ofString algorithm.name

/-- How an algorithm shows in diagnostics. -/
def describe (algorithm : PqAlgorithm) : String := algorithm.name.capitalize

end PqAlgorithm

end HybridTx
