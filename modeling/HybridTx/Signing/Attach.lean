import HybridTx.Signing.Backend
import HybridTx.Transaction.Signed

/-! Signing in two steps. The classical signature comes first and is mandatory; then a
post-quantum signature over the same hash is attached, or the transaction goes out without one. -/

namespace HybridTx

/-- A transaction with its classical signature, before the post-quantum step. -/
structure ClassicallySigned where
  transaction : Transaction
  hash : TxHash
  signature : EcdsaSignature
deriving DecidableEq

variable {m : Type → Type} [Monad m] {Key : Type}

/-- Hashes the transaction and takes the signature of a backend, if it is well formed. -/
def Transaction.signClassical (tx : Transaction) (signer : ClassicalSigner m Key) (key : Key) :
    m (Except TransactionError ClassicallySigned) := do
  let hash := tx.hash
  match ← signer.sign key hash with
  | .error e => pure (.error (.signer e))
  | .ok signature =>
    if signature.WellFormed then pure (.ok ⟨tx, hash, signature⟩)
    else pure (.error (.signer (.malformedOutput
      s!"classical signer returned y_parity {signature.yParity} or an oversized component")))

namespace ClassicallySigned

/-- Completes the transaction with a post-quantum signature made elsewhere. Neither part may be
empty: an empty pair is a fallback. -/
def attachSignature (classical : ClassicallySigned) (pqSignature pqPublicKey : Bytes) :
    Except TransactionError SignedTransaction :=
  if pqSignature.isEmpty || pqPublicKey.isEmpty then
    .error (.invalidField "pq_signature"
      "post-quantum signature and public key must both be non-empty")
  else .ok ⟨classical.transaction, classical.signature, pqSignature, pqPublicKey⟩

/-- Has a backend sign the same hash and completes the transaction. -/
def attachPq (classical : ClassicallySigned) (signer : PqSigner m Key) (key : Key)
    (pqPublicKey : Bytes) : m (Except TransactionError SignedTransaction) := do
  match ← signer.sign key classical.hash with
  | .error e => pure (.error (.signer e))
  | .ok pqSignature => pure (classical.attachSignature pqSignature pqPublicKey)

/-- Completes the transaction without a post-quantum signature. -/
def fallback (classical : ClassicallySigned) : SignedTransaction :=
  ⟨classical.transaction, classical.signature, [], []⟩

end ClassicallySigned

end HybridTx
