import HybridTx.Hash.Sponge
import HybridTx.Rlp.Decode
import HybridTx.Transaction.Address

/-! Transactions before they are signed: nine fields, their bytes, and the hash that both signatures
sign. -/

namespace HybridTx

/-- The first byte of every transaction, part of what is hashed. -/
def transactionTag : UInt8 := 0x05

/-- The fields that are signed. -/
def unsignedFieldCount : Nat := 9

/-- The fields that are transmitted. -/
def signedFieldCount : Nat := 14

/-- An account and the storage slots of it that a transaction will touch. -/
structure AccessEntry where
  address : Address
  storageKeys : List (FixedBytes 32)
deriving DecidableEq

/-- The nine fields that are signed. A transaction without a recipient creates a contract. -/
structure Transaction where
  chainId : Nat := 0
  nonce : UInt64 := 0
  maxPriorityFee : Nat := 0
  maxFee : Nat := 0
  gasLimit : UInt64 := 0
  recipient : Option Address := none
  value : Nat := 0
  data : Bytes := []
  accessList : List AccessEntry := []
deriving DecidableEq

/-- A fault of the format is a fault of the transaction. -/
def orMalformed {α : Type} (result : Except Rlp.Error α) : Except TransactionError α :=
  result.mapError .malformed

namespace AccessEntry

/-- An address and a list of keys. -/
def toItem (entry : AccessEntry) : Rlp.Item :=
  .list [.bytes entry.address.bytes, .list (entry.storageKeys.map fun key => .bytes key.bytes)]

/-- Reads one storage key. -/
def keyOfItem (item : Rlp.Item) : Except TransactionError (FixedBytes 32) := do
  let bytes ← orMalformed item.asBytes
  match FixedBytes.ofBytes? 32 bytes with
  | some key => .ok key
  | none => .error (.invalidField "access_list" s!"storage key of {bytes.length} bytes")

/-- Reads an address and a list of keys. -/
def ofItem (item : Rlp.Item) : Except TransactionError AccessEntry := do
  match ← orMalformed item.asList with
  | [address, keys] =>
    let address ← (Address.ofBytes (← orMalformed address.asBytes)).mapError
      fun e => .invalidField "access_list" e.message
    let storageKeys ← (← orMalformed keys.asList).mapM keyOfItem
    .ok ⟨address, storageKeys⟩
  | parts => .error (.invalidField "access_list" s!"entry has {parts.length} items, expected 2")

end AccessEntry

/-- Reads a recipient; the empty string is none. -/
def recipientOfItem (item : Rlp.Item) : Except TransactionError (Option Address) := do
  match ← orMalformed item.asBytes with
  | [] => .ok none
  | bytes =>
    let address ← (Address.ofBytes bytes).mapError fun e => .invalidField "to" e.message
    .ok (some address)

/-- The bytes of an item list behind the type tag. -/
def encodeTagged (items : List Rlp.Item) : Bytes :=
  transactionTag :: (Rlp.Item.list items).encode

/-- Reads the item list behind the type tag. -/
def decodeTagged : Bytes → Except TransactionError (List Rlp.Item)
  | [] => .error (.malformed .emptyInput)
  | tag :: payload =>
    if tag = transactionTag then do
      let item ← orMalformed (Rlp.decodeExact payload)
      orMalformed item.asList
    else .error (.unsupportedType tag)

namespace Transaction

/-- The fields in the order of the wire. -/
def toItems (tx : Transaction) : List Rlp.Item :=
  [.bytes (.ofNat tx.chainId), .bytes (Rlp.wordDigits tx.nonce), .bytes (.ofNat tx.maxPriorityFee),
    .bytes (.ofNat tx.maxFee), .bytes (Rlp.wordDigits tx.gasLimit),
    .bytes (tx.recipient.elim [] (·.bytes)), .bytes (.ofNat tx.value), .bytes tx.data,
    .list (tx.accessList.map AccessEntry.toItem)]

/-- The encodings of the fields in the order of the wire. -/
def encodeFields (tx : Transaction) : List Bytes := tx.toItems.map Rlp.Item.encode

/-- The bytes that are hashed: the type tag and the list of nine fields. -/
def signingPayload (tx : Transaction) : Bytes := encodeTagged tx.toItems

/-- The Keccak-256 digest of the tag and then the field list; no signature enters it. -/
def hash (tx : Transaction) : TxHash :=
  ⟨((Keccak.Hasher.start.update [transactionTag]).update
    (Rlp.encodeList tx.encodeFields)).finish⟩

/-- Reads the nine fields. The recipient and the access list are looked at first. -/
def ofFields (chainId nonce maxPriorityFee maxFee gasLimit recipient value data accessList :
    Rlp.Item) : Except TransactionError Transaction := do
  let recipient ← recipientOfItem recipient
  let accessList ← (← orMalformed accessList.asList).mapM AccessEntry.ofItem
  let chainId ← orMalformed chainId.asScalar
  let nonce ← orMalformed nonce.asWord
  let maxPriorityFee ← orMalformed maxPriorityFee.asScalar
  let maxFee ← orMalformed maxFee.asScalar
  let gasLimit ← orMalformed gasLimit.asWord
  let value ← orMalformed value.asScalar
  let data ← orMalformed data.asBytes
  .ok { chainId, nonce, maxPriorityFee, maxFee, gasLimit, recipient, value, data, accessList }

/-- Reads the bytes that are hashed. -/
def decode (bytes : Bytes) : Except TransactionError Transaction := do
  match ← decodeTagged bytes with
  | [chainId, nonce, maxPriorityFee, maxFee, gasLimit, recipient, value, data, accessList] =>
    ofFields chainId nonce maxPriorityFee maxFee gasLimit recipient value data accessList
  | items => .error (.fieldCount unsignedFieldCount items.length)

end Transaction

end HybridTx
