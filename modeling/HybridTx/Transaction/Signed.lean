import HybridTx.Transaction.Basic
import HybridTx.Transaction.Signature

/-! Transactions as they are transmitted: the signed fields, the classical signature, and a
post-quantum signature with its public key, both empty when there is none. -/

namespace HybridTx

/-- Which signatures a transaction carries. -/
inductive SignatureMode
  | hybrid
  | classicalOnly
deriving DecidableEq, Repr

/-- The displayed form. -/
def SignatureMode.display : SignatureMode → String
  | .hybrid => "hybrid"
  | .classicalOnly => "classical-only"

/-- A transaction with its signatures. -/
structure SignedTransaction where
  transaction : Transaction
  signature : EcdsaSignature
  pqSignature : Bytes
  pqPublicKey : Bytes
deriving DecidableEq

/-- Reads a component of a signature. -/
def componentOfItem (field : String) (item : Rlp.Item) : Except TransactionError Nat := do
  let value ← orMalformed item.asScalar
  if bitLength value > componentBits then
    .error (.invalidField field s!"{bitLength value} bits exceeds {componentBits}")
  else .ok value

/-- Reads a parity. -/
def parityOfItem (item : Rlp.Item) : Except TransactionError UInt8 := do
  let parity ← orMalformed item.asWord
  if parity > 1 then .error (.invalidField "y_parity" s!"expected 0 or 1, got {parity}")
  else .ok parity.toUInt8

namespace SignedTransaction

/-- Puts a transaction together from its parts. Only the shape of the classical signature is
checked; the verifier decides whether the signatures hold. -/
def ofParts (transaction : Transaction) (signature : EcdsaSignature)
    (pqSignature pqPublicKey : Bytes) : Except TransactionError SignedTransaction :=
  if signature.WellFormed then .ok ⟨transaction, signature, pqSignature, pqPublicKey⟩
  else .error (.invalidField "signature"
    s!"y_parity {signature.yParity} or component exceeds {componentBits} bits")

/-- Classical-only when both post-quantum fields are empty. -/
def mode (signed : SignedTransaction) : SignatureMode :=
  if signed.pqSignature.isEmpty && signed.pqPublicKey.isEmpty then .classicalOnly else .hybrid

/-- The hash of the signed fields. -/
def signingHash (signed : SignedTransaction) : TxHash := signed.transaction.hash

/-- The fields in the order of the wire. -/
def toItems (signed : SignedTransaction) : List Rlp.Item :=
  signed.transaction.toItems ++
    [.bytes (Rlp.wordDigits signed.signature.yParity.toUInt64),
      .bytes (.ofNat signed.signature.r), .bytes (.ofNat signed.signature.s),
      .bytes signed.pqSignature, .bytes signed.pqPublicKey]

/-- The bytes on the wire: the type tag and the list of fourteen fields. -/
def encode (signed : SignedTransaction) : Bytes := encodeTagged signed.toItems

/-- What names the transmitted transaction: the Keccak-256 digest of its bytes. -/
def envelopeHash (signed : SignedTransaction) : TxHash := ⟨Keccak.keccak256 signed.encode⟩

/-- Reads the bytes on the wire. -/
def decode (bytes : Bytes) : Except TransactionError SignedTransaction := do
  match ← decodeTagged bytes with
  | [chainId, nonce, maxPriorityFee, maxFee, gasLimit, recipient, value, data, accessList,
      parity, r, s, pqSignature, pqPublicKey] =>
    let transaction ← Transaction.ofFields chainId nonce maxPriorityFee maxFee gasLimit recipient
      value data accessList
    let yParity ← parityOfItem parity
    let r ← componentOfItem "r" r
    let s ← componentOfItem "s" s
    let pqSignature ← orMalformed pqSignature.asBytes
    let pqPublicKey ← orMalformed pqPublicKey.asBytes
    .ok ⟨transaction, ⟨yParity, r, s⟩, pqSignature, pqPublicKey⟩
  | items => .error (.fieldCount signedFieldCount items.length)

end SignedTransaction

end HybridTx
