import HybridTx.Transaction.Error

/-! Account addresses and transaction hashes, and their texts. -/

namespace HybridTx

/-- A refusal for a byte string of the wrong length. -/
def TransactionError.wrongLength (field : String) (expected found : Nat) : TransactionError :=
  .invalidField field s!"expected {expected} bytes, got {found}"

/-- Reads hexadecimal digits after one optional `0x`; a fault is one of `field`. -/
def decodeFieldHex (field text : String) : Except TransactionError Bytes :=
  (Hex.decodeMarked text).mapError fun e => .invalidField field e.message

/-- A byte string of a fixed length, or a fault of `field`. -/
def fixedField (field : String) (size : Nat) (bytes : Bytes) :
    Except TransactionError (FixedBytes size) :=
  match FixedBytes.ofBytes? size bytes with
  | some block => .ok block
  | none => .error (.wrongLength field size bytes.length)

/-- An account: the last 20 bytes of the hash of its public key. -/
structure Address extends FixedBytes 20
deriving DecidableEq

namespace Address

/-- The address of no account. -/
def zero : Address := ⟨.zero 20⟩

/-- Takes exactly 20 bytes. -/
def ofBytes (bytes : Bytes) : Except TransactionError Address :=
  (fixedField "address" 20 bytes).map Address.mk

/-- Reads 40 digits after one optional `0x`. -/
def ofHex (text : String) : Except TransactionError Address := do
  ofBytes (← decodeFieldHex "address" text)

/-- The 40 digits. -/
def toHex (address : Address) : String := Hex.encode address.bytes

/-- The displayed form: `0x` and 40 digits. -/
def display (address : Address) : String := "0x" ++ address.toHex

end Address

/-- The hash of a transaction: what every signature signs, or what names a transmitted one. -/
structure TxHash extends FixedBytes 32
deriving DecidableEq

namespace TxHash

/-- Reads 64 digits after one optional `0x`. -/
def ofHex (text : String) : Except TransactionError TxHash := do
  let bytes ← decodeFieldHex "hash" text
  (fixedField "hash" 32 bytes).map TxHash.mk

/-- The 64 digits. -/
def toHex (hash : TxHash) : String := Hex.encode hash.bytes

/-- The displayed form: `0x` and 64 digits. -/
def display (hash : TxHash) : String := "0x" ++ hash.toHex

end TxHash

end HybridTx
