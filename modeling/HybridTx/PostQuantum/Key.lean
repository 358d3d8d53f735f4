import HybridTx.Dilithium.Scheme
import HybridTx.PostQuantum.Signature
import HybridTx.Signing.Backend

/-! Post-quantum secret keys, and the backend that signs and verifies with the algorithms that are
built in. -/

namespace HybridTx

/-- A secret key of an algorithm that is built in, of the right size for it. -/
structure PqSecretKey where
  algorithm : PqAlgorithm
  parameters : Dilithium.Parameters
  bytes : Bytes
  supported : algorithm.parameters? = some parameters
  length_eq : bytes.length = parameters.secretKeySize

namespace PqSecretKey

/-- A key of a given algorithm; the size must be right. -/
def ofBytes (algorithm : PqAlgorithm) (bytes : Bytes) : Except KeyError PqSecretKey :=
  match h : algorithm.parameters? with
  | none => .error (.unsupportedAlgorithm algorithm.id)
  | some parameters =>
    if hl : bytes.length = parameters.secretKeySize then
      .ok ⟨algorithm, parameters, bytes, h, hl⟩
    else .error (.invalidSecretKey (algorithm.name ++
      s!" secret key must be {parameters.secretKeySize} bytes, got {bytes.length}"))

/-- A key whose algorithm is told by its length. -/
def infer (bytes : Bytes) : Except KeyError PqSecretKey := do
  ofBytes (← PqAlgorithm.ofSecretKey bytes) bytes

/-- How a key shows in diagnostics. -/
def describe (key : PqSecretKey) : String :=
  "DilithiumSecretKey(" ++ key.algorithm.name ++ s!", {key.bytes.length} bytes)"

/-- The signature over a message. A search for a mask that would never end is an error. -/
def sign (key : PqSecretKey) (message : Bytes) : Except KeyError PqSignature :=
  match Dilithium.sign? key.parameters key.bytes message with
  | some body => .ok ⟨key.algorithm, body⟩
  | none => .error (.signingFailed "no mask gave a signature")

/-- The key pair of an algorithm for a seed of 32 bytes: the secret key, and the public key. -/
def generate (algorithm : PqAlgorithm) (seed : Bytes) : Except KeyError (PqSecretKey × Bytes) := do
  let (publicKey, secretKey) := Dilithium.keypair (← algorithm.parameters) seed
  .ok (← ofBytes algorithm secretKey, publicKey)

end PqSecretKey

/-- Whether a tagged signature over a message was made by the owner of a public key. Unknown
algorithms and keys or signatures of the wrong size do not verify; only an algorithm that is known
but not built in leaves the question open. -/
def verifyTagged (publicKey message signature : Bytes) : Except KeyError Bool :=
  match signature with
  | [] => .ok false
  | id :: body =>
    match PqAlgorithm.ofId id with
    | .error _ => .ok false
    | .ok algorithm =>
      match algorithm.parameters? with
      | none => .error (.unsupportedAlgorithm id)
      | some parameters => .ok (Dilithium.verify parameters publicKey message body)

/-- Makes keys of one algorithm, and signs with keys of any. -/
structure DilithiumSigner where
  algorithm : PqAlgorithm
  parameters : Dilithium.Parameters
  supported : algorithm.parameters? = some parameters

namespace DilithiumSigner

/-- The signer of the default algorithm. -/
def default : DilithiumSigner := ⟨.default, Dilithium.level3, rfl⟩

/-- The signer of an algorithm that is built in. -/
def ofAlgorithm (algorithm : PqAlgorithm) : Except KeyError DilithiumSigner :=
  match h : algorithm.parameters? with
  | some parameters => .ok ⟨algorithm, parameters, h⟩
  | none => .error (.unsupportedAlgorithm algorithm.id)

/-- A fresh key pair. -/
def generate (signer : DilithiumSigner) (seed : Bytes) : Except KeyError (PqSecretKey × Bytes) :=
  PqSecretKey.generate signer.algorithm seed

/-- Signatures carry the tag of the key's algorithm. Seeds of new keys come from `random`. -/
def backend (signer : DilithiumSigner) (m : Type → Type) [Monad m]
    (random : Nat → m Bytes) : PqSigner m PqSecretKey where
  generateKeypair := do
    pure ((signer.generate (← random 32)).mapError KeyError.toSignerError)
  sign key hash :=
    pure (((key.sign hash.bytes).map PqSignature.toBytes).mapError KeyError.toSignerError)

end DilithiumSigner

/-- Checks signatures with the algorithms that are built in. -/
def dilithiumVerifier (m : Type → Type) [Monad m] : PqVerifier m where
  verify publicKey hash signature :=
    pure ((verifyTagged publicKey hash.bytes signature).mapError KeyError.toSignerError)

end HybridTx
