import HybridTx.Signing.Attach
import HybridTx.Signing.Verify

/-! A signing desk: one transaction on its way from draft to transmission, and the transactions that
wait to be verified. Every public operation on transactions is a step of the desk. -/

namespace HybridTx

/-- What lies on the desk. -/
structure Desk where
  draft : Transaction := {}
  classical : Option ClassicallySigned := none
  signed : Option SignedTransaction := none
  queue : List SignedTransaction := []

/-- Why a step did nothing. -/
inductive DeskError
  | noClassical
  | noSigned
  | refused (cause : TransactionError)

/-- The desk after a step, and what the step gave. -/
abbrev DeskStep (α : Type) := Desk × Except DeskError α

namespace Desk

variable {m : Type → Type} [Monad m] {Key : Type}

/-- A step that may put a signed transaction on the desk. -/
def place (desk : Desk) (result : Except TransactionError SignedTransaction) :
    DeskStep SignedTransaction :=
  match result with
  | .ok signed => ({ desk with signed := some signed }, .ok signed)
  | .error e => (desk, .error (.refused e))

/-- Signs a copy of the draft. -/
def sign (desk : Desk) (signer : ClassicalSigner m Key) (key : Key) :
    m (DeskStep ClassicallySigned) := do
  match ← desk.draft.signClassical signer key with
  | .ok classical => pure ({ desk with classical := some classical }, .ok classical)
  | .error e => pure (desk, .error (.refused e))

/-- Attaches a post-quantum signature made elsewhere. The classically signed transaction is used
up, even when the step fails. -/
def attachSignature (desk : Desk) (pqSignature pqPublicKey : Bytes) :
    DeskStep SignedTransaction :=
  match desk.classical with
  | none => (desk, .error .noClassical)
  | some classical =>
    place { desk with classical := none } (classical.attachSignature pqSignature pqPublicKey)

/-- Has a backend sign the hash and attaches the signature, or fails; either way the classically
signed transaction is used up. -/
def attachPq (desk : Desk) (signer : PqSigner m Key) (key : Key) (pqPublicKey : Bytes) :
    m (DeskStep SignedTransaction) := do
  match desk.classical with
  | none => pure (desk, .error .noClassical)
  | some classical =>
    let result ← classical.attachPq signer key pqPublicKey
    pure (place { desk with classical := none } result)

/-- Completes the transaction without a post-quantum signature. -/
def fallback (desk : Desk) : DeskStep SignedTransaction :=
  match desk.classical with
  | none => (desk, .error .noClassical)
  | some classical => place { desk with classical := none } (.ok classical.fallback)

/-- Puts the transaction that some bytes hold on the desk. -/
def decode (desk : Desk) (bytes : Bytes) : DeskStep SignedTransaction :=
  desk.place (SignedTransaction.decode bytes)

/-- Sends the signed transaction over the wire and puts what arrives on the desk. -/
def redecode (desk : Desk) : DeskStep SignedTransaction :=
  match desk.signed with
  | none => (desk, .error .noSigned)
  | some signed => desk.place (SignedTransaction.decode signed.encode)

/-- Takes the signed transaction apart; its fields become the draft. -/
def unpack (desk : Desk) : DeskStep SignedTransaction :=
  match desk.signed with
  | none => (desk, .error .noSigned)
  | some signed => ({ desk with draft := signed.transaction }, .ok signed)

/-- Puts a transaction made of given parts on the desk. -/
def rebuild (desk : Desk) (transaction : Transaction) (signature : EcdsaSignature)
    (pqSignature pqPublicKey : Bytes) : DeskStep SignedTransaction :=
  desk.place (SignedTransaction.ofParts transaction signature pqSignature pqPublicKey)

/-- Queues the signed transaction for verification. -/
def push (desk : Desk) : DeskStep Nat :=
  match desk.signed with
  | none => (desk, .error .noSigned)
  | some signed =>
    ({ desk with queue := desk.queue ++ [signed] }, .ok (desk.queue.length + 1))

/-- The verdict on the signed transaction. -/
def verify (desk : Desk) (verifier : HybridVerifier m) : m (Except DeskError Verdict) := do
  match desk.signed with
  | none => pure (.error .noSigned)
  | some signed => return (← verifier.verify signed).mapError .refused

/-- The verdicts on the queue. -/
def verifyQueue (desk : Desk) (verifier : HybridVerifier m) :
    m (Except DeskError (List Verdict)) := do
  return (← verifier.verifyAll desk.queue).mapError .refused

end Desk

end HybridTx
