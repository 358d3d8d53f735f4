import HybridTx.Bytes.Hex

/-! Why a backend that signs or verifies gives no answer. -/

namespace HybridTx

/-- The failure of a backend. It reaches the caller unchanged. -/
inductive SignerError
  | unavailable (reason : String)
  | failed (reason : String)
  | invalidKey (reason : String)
  | unsupportedAlgorithm (id : UInt8)
  | malformedOutput (reason : String)
deriving DecidableEq, Repr

namespace SignerError

/-- The wording of a failure. -/
def message : SignerError → String
  | unavailable reason => "Signer unavailable: " ++ reason
  | failed reason => "Signer failed: " ++ reason
  | invalidKey reason => "Invalid key: " ++ reason
  | unsupportedAlgorithm id => "Unsupported algorithm id: " ++ Hex.byteLabel id
  | malformedOutput reason => "Malformed signer output: " ++ reason

/-- The same call may succeed later only when the backend could not be reached. -/
def isTransient : SignerError → Bool
  | unavailable _ => true
  | _ => false

end SignerError

end HybridTx
