import HybridTx.Rlp.Item
import HybridTx.Signing.Error

/-! Why a transaction cannot be read, built or signed. A signature that does not verify is no error:
it is a verdict. -/

namespace HybridTx

/-- Why bytes or parts are no transaction, or a backend gave no answer about one. -/
inductive TransactionError
  | malformed (cause : Rlp.Error)
  | unsupportedType (tag : UInt8)
  | fieldCount (expected found : Nat)
  | invalidField (field reason : String)
  | signer (cause : SignerError)
deriving DecidableEq, Repr

namespace TransactionError

/-- The wording of an error. -/
def message : TransactionError → String
  | malformed cause => "Malformed encoding: " ++ cause.message
  | unsupportedType tag => "Unsupported transaction type: " ++ Hex.byteLabel tag
  | fieldCount expected found => s!"Expected {expected} fields, found {found}"
  | invalidField field reason => "Invalid field " ++ field ++ ": " ++ reason
  | signer cause => "External signer failure: " ++ cause.message

/-- A stable number for each kind of error. -/
def code : TransactionError → Nat
  | malformed _ => 2001
  | unsupportedType _ => 2002
  | fieldCount _ _ => 2003
  | invalidField _ _ => 2004
  | signer _ => 3001

/-- The bytes or parts are no transaction, whatever the backends do. -/
def isMalformed : TransactionError → Bool
  | signer _ => false
  | _ => true

/-- The same call may succeed later. -/
def isRecoverable : TransactionError → Bool
  | signer cause => cause.isTransient
  | _ => false

end TransactionError

end HybridTx
