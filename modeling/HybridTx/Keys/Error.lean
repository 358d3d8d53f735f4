import HybridTx.Signing.Error

/-! Why a key or a signature is refused, or a key file cannot be used. -/

namespace HybridTx

/-- Faults of keys, signatures and key files. -/
inductive KeyError
  | invalidPublicKey (reason : String)
  | invalidSecretKey (reason : String)
  | invalidSignature (reason : String)
  | signingFailed (reason : String)
  | unsupportedAlgorithm (id : UInt8)
  | unknownAlgorithm (name : String)
  | keyFile (path reason : String)
deriving DecidableEq, Repr

namespace KeyError

/-- The wording of a fault. -/
def message : KeyError → String
  | invalidPublicKey reason => "Invalid public key: " ++ reason
  | invalidSecretKey reason => "Invalid secret key: " ++ reason
  | invalidSignature reason => "Invalid signature: " ++ reason
  | signingFailed reason => "Signing failed: " ++ reason
  | unsupportedAlgorithm id => "Unsupported PQ algorithm id: " ++ Hex.byteLabel id
  | unknownAlgorithm name => "Unknown PQ algorithm: " ++ name
  | keyFile path reason => "Key file " ++ path ++ ": " ++ reason

/-- The failure that a backend reports for a fault. -/
def toSignerError (e : KeyError) : SignerError :=
  match e with
  | invalidPublicKey _ | invalidSecretKey _ | unknownAlgorithm _ => .invalidKey e.message
  | unsupportedAlgorithm id => .unsupportedAlgorithm id
  | invalidSignature _ | signingFailed _ | keyFile _ _ => .failed e.message

end KeyError

end HybridTx
