import HybridTx.Commands.Amount
import HybridTx.Config.Load
import HybridTx.Keys.Error
import HybridTx.Signing.Verify

/-! Why a command fails, and how that is told: a summary, and the causes behind it. -/

namespace HybridTx

/-- Faults of commands. -/
inductive CommandError
  | config (cause : ConfigError)
  | transaction (cause : TransactionError)
  | key (cause : KeyError)
  | amount (name text : String) (cause : Amount.Error)
  | digits (name : String) (cause : Hex.Error)
  | longStorageKey (text : String)
  | accessEntry (text : String) (cause : TransactionError)
  | address (option : String) (cause : TransactionError)
  | unreadable (path : Path) (cause : FileError)
  | keyExists (path : Path)
  | pqKeysMissing (privateKey publicKey : Path)
  | signerCommandMissing
  | selfCheck (reason : RejectReason)
  | rejected (hash : TxHash)
deriving DecidableEq

namespace CommandError

/-- The summary of a fault. -/
def message : CommandError → String
  | config (.unreadable path _) => "reading config " ++ path
  | config (.malformed path) => "parsing config " ++ path
  | transaction cause => cause.message
  | key cause => cause.message
  | amount name text _ => "invalid " ++ name ++ ": " ++ Text.quote text
  | digits name _ => "invalid " ++ name ++ " hex"
  | longStorageKey text => "storage key " ++ text ++ " is longer than 32 bytes"
  | accessEntry text _ => "invalid access entry " ++ text
  | address option _ => "invalid --" ++ option
  | unreadable path _ => "reading " ++ path
  | keyExists path => path ++ " already exists (use --force to overwrite)"
  | pqKeysMissing privateKey publicKey =>
    "post-quantum keys not found (" ++ privateKey ++ ", " ++ publicKey ++ ")"
  | signerCommandMissing => "signer.mode = \"command\" requires signer.command"
  | selfCheck reason => "freshly signed transaction failed verification: " ++ reason.message
  | rejected hash => "transaction " ++ hash.display ++ " rejected"

/-- What stands behind an error of a transaction. -/
def causesOf : TransactionError → List String
  | .malformed cause => [cause.message]
  | .signer cause => [cause.message]
  | _ => []

/-- What stands behind a fault, the nearest first. -/
def causes : CommandError → List String
  | config (.unreadable _ cause) => [cause.message]
  | config (.malformed _) => ["not a well-formed configuration"]
  | transaction cause => causesOf cause
  | amount _ _ cause => [cause.message]
  | digits _ cause => [cause.message]
  | accessEntry _ cause | address _ cause => cause.message :: causesOf cause
  | unreadable _ cause => [cause.message]
  | _ => []

/-- The number of the transaction error that a fault comes from, if it comes from one. -/
def code? : CommandError → Option Nat
  | transaction cause | accessEntry _ cause | address _ cause => some cause.code
  | _ => none

/-- A cause in the report. Lines are indented, and numbered when there are several causes. -/
def causeText (number? : Option Nat) (cause : String) : String :=
  match number? with
  | some n => "\n    " ++ toString n ++ ": " ++ cause.replace "\n" "\n       "
  | none => "\n    " ++ cause.replace "\n" "\n    "

/-- The whole report. -/
def report (e : CommandError) : String :=
  "Error: " ++ e.message ++ match e.causes with
    | [] => ""
    | [cause] => "\n\nCaused by:" ++ causeText none cause
    | causes => "\n\nCaused by:" ++ String.join (causes.mapIdx fun n => causeText (some n))

end CommandError

end HybridTx
