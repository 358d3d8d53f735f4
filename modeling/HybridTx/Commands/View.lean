import HybridTx.Json.Record
import HybridTx.PostQuantum.Algorithm
import HybridTx.Transaction.Signed

/-! A decoded transaction as it is shown. Numbers are decimal texts, so that readers that take JSON
numbers for fractions lose nothing, and bytes are digits after `0x`. -/

namespace HybridTx

/-- An entry of the access list. -/
structure AccessView where
  address : String
  storageKeys : List String
deriving DecidableEq, Repr

/-- What is shown of a transaction. -/
structure TransactionView where
  type : String
  hash : String
  envelopeHash : String
  mode : SignatureMode
  chainId : String
  nonce : String
  maxPriorityFee : String
  maxFee : String
  gasLimit : String
  recipient : Option String
  value : String
  data : String
  accessList : List AccessView
  yParity : UInt8
  r : String
  s : String
  pqAlgorithm : Option String
  pqSignature : String
  pqPublicKey : String
deriving DecidableEq, Repr

/-- A number in decimal digits. -/
def decimal (n : Nat) : String := String.ofList (Nat.toDigits 10 n)

/-- What is shown of an entry. -/
def AccessView.ofEntry (entry : AccessEntry) : AccessView where
  address := entry.address.display
  storageKeys := entry.storageKeys.map fun key => Hex.encodeMarked key.bytes

/-- The algorithm that the tag of a signature names. -/
def tagName (tag : UInt8) : String :=
  match PqAlgorithm.ofId tag with
  | .ok algorithm => algorithm.name
  | .error _ => "unknown (" ++ Hex.byteLabel tag ++ ")"

namespace TransactionView

/-- What is shown of a transaction. -/
def ofSigned (signed : SignedTransaction) : TransactionView where
  type := Hex.byteLabel transactionTag
  hash := signed.signingHash.display
  envelopeHash := signed.envelopeHash.display
  mode := signed.mode
  chainId := decimal signed.transaction.chainId
  nonce := decimal signed.transaction.nonce.toNat
  maxPriorityFee := decimal signed.transaction.maxPriorityFee
  maxFee := decimal signed.transaction.maxFee
  gasLimit := decimal signed.transaction.gasLimit.toNat
  recipient := signed.transaction.recipient.map Address.display
  value := decimal signed.transaction.value
  data := Hex.encodeMarked signed.transaction.data
  accessList := signed.transaction.accessList.map AccessView.ofEntry
  yParity := signed.signature.yParity
  r := decimal signed.signature.r
  s := decimal signed.signature.s
  pqAlgorithm := signed.pqSignature.head?.map tagName
  pqSignature := Hex.encodeMarked signed.pqSignature
  pqPublicKey := Hex.encodeMarked signed.pqPublicKey

/-- An entry as an object. -/
def accessToJson (entry : AccessView) : Json :=
  .ofMembers [("address", .ofString entry.address),
    ("storage_keys", .array (entry.storageKeys.map .ofString))]

/-- The view as an object. -/
def toJson (view : TransactionView) : Json :=
  .ofMembers [("type", .ofString view.type), ("hash", .ofString view.hash),
    ("envelope_hash", .ofString view.envelopeHash), ("mode", view.mode.toJson),
    ("chain_id", .ofString view.chainId), ("nonce", .ofString view.nonce),
    ("max_priority_fee_per_gas", .ofString view.maxPriorityFee),
    ("max_fee_per_gas", .ofString view.maxFee), ("gas_limit", .ofString view.gasLimit),
    ("to", .ofString? view.recipient), ("value", .ofString view.value),
    ("data", .ofString view.data), ("access_list", .array (view.accessList.map accessToJson)),
    ("y_parity", .ofNat view.yParity.toNat), ("r", .ofString view.r), ("s", .ofString view.s),
    ("pq_algorithm", .ofString? view.pqAlgorithm), ("pq_signature", .ofString view.pqSignature),
    ("pq_public_key", .ofString view.pqPublicKey)]

end TransactionView

end HybridTx
