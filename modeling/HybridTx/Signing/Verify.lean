import HybridTx.Signing.Backend
import HybridTx.Transaction.Signed

/-! The acceptance rule. The classical signature is always checked; a post-quantum pair is checked
when both halves are there, and half a pair is never accepted. -/

namespace HybridTx

/-- Which of the two checks failed. -/
inductive RejectReason
  | classicalSignature
  | pqSignature
deriving DecidableEq, Repr

/-- The wording of a rejection. -/
def RejectReason.message : RejectReason → String
  | .classicalSignature => "Invalid classical signature"
  | .pqSignature => "Invalid post-quantum signature"

/-- What verifying a transaction comes to. -/
inductive Verdict
  | accepted (sender : Address) (mode : SignatureMode)
  | rejected (reason : RejectReason)
deriving DecidableEq

/-- The backends and the account that a transaction is expected to come from. Recovering an account
cannot tell a forged signature from one by another key; comparing with the expected one can. -/
structure HybridVerifier (m : Type → Type) where
  classical : ClassicalVerifier m
  pq : PqVerifier m
  expectedSender : Address

namespace HybridVerifier

variable {m : Type → Type} [Monad m]

/-- The expected sender made the classical signature. A signature that is not well formed is not
shown to the backend. -/
def checkClassical (verifier : HybridVerifier m) (hash : TxHash) (signature : EcdsaSignature) :
    m (Except SignerError Bool) :=
  if signature.WellFormed then do
    match ← verifier.classical.recover hash signature with
    | .error e => pure (.error e)
    | .ok recovered => pure (.ok (recovered == some verifier.expectedSender))
  else pure (.ok false)

/-- The verdict on the post-quantum pair of a transaction whose classical signature holds. -/
def checkPq (verifier : HybridVerifier m) (hash : TxHash) (signature publicKey : Bytes) :
    m (Except SignerError Verdict) :=
  match signature, publicKey with
  | [], [] => pure (.ok (.accepted verifier.expectedSender .classicalOnly))
  | _ :: _, _ :: _ => do
    match ← verifier.pq.verify publicKey hash signature with
    | .error e => pure (.error e)
    | .ok true => pure (.ok (.accepted verifier.expectedSender .hybrid))
    | .ok false => pure (.ok (.rejected .pqSignature))
  | _, _ => pure (.ok (.rejected .pqSignature))

/-- The verdict on a transaction; an error only when a backend fails. -/
def verify (verifier : HybridVerifier m) (signed : SignedTransaction) :
    m (Except TransactionError Verdict) := do
  let hash := signed.signingHash
  match ← verifier.checkClassical hash signed.signature with
  | .error e => pure (.error (.signer e))
  | .ok false => pure (.ok (.rejected .classicalSignature))
  | .ok true =>
    let verdict ← verifier.checkPq hash signed.pqSignature signed.pqPublicKey
    pure (verdict.mapError .signer)

/-- The verdicts on several transactions, in order, up to the first failure of a backend. -/
def verifyAll (verifier : HybridVerifier m) :
    List SignedTransaction → m (Except TransactionError (List Verdict))
  | [] => pure (.ok [])
  | signed :: rest => do
    match ← verifier.verify signed with
    | .error e => pure (.error e)
    | .ok verdict =>
      let verdicts ← verifier.verifyAll rest
      pure (verdicts.map (verdict :: ·))

end HybridVerifier

end HybridTx
