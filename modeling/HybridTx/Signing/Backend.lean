import HybridTx.Signing.Error
import HybridTx.Transaction.Address
import HybridTx.Transaction.Signature

/-! What signs and verifies. A backend may keep state, call a tool or fail: that is the monad `m`.
Key material is always handed over; no backend has a key of its own. -/

namespace HybridTx

/-- Makes classical signatures with keys of type `Key`. -/
structure ClassicalSigner (m : Type → Type) (Key : Type) where
  sign : Key → TxHash → m (Except SignerError EcdsaSignature)

/-- Names the account that made a classical signature over a hash, if any did. -/
structure ClassicalVerifier (m : Type → Type) where
  recover : TxHash → EcdsaSignature → m (Except SignerError (Option Address))

/-- Makes post-quantum keys and signatures. A key is whatever the backend knows it by: bytes, or
the path of a file. -/
structure PqSigner (m : Type → Type) (Key : Type) where
  generateKeypair : m (Except SignerError (Key × Bytes))
  sign : Key → TxHash → m (Except SignerError Bytes)

/-- Tells whether a post-quantum signature over a hash was made by the owner of a public key. A
failure says that the backend could not decide. -/
structure PqVerifier (m : Type → Type) where
  verify : (publicKey : Bytes) → TxHash → (signature : Bytes) → m (Except SignerError Bool)

end HybridTx
