import HybridTx.Commands.Error
import HybridTx.Config.Basic
import HybridTx.Text.Split
import HybridTx.Transaction.Basic

/-! The fields of a transaction as they are given on the command line. -/

namespace HybridTx

/-- Reads an amount, with blanks around; a fault is one of `name`. -/
def readAmount (name text : String) : Except CommandError Nat :=
  let trimmed := Text.trim text
  (Amount.readTrimmed trimmed.toList).mapError fun e => .amount name trimmed e

/-- Reads hexadecimal digits after one optional `0x`, with blanks around; a fault is one of
`name`. -/
def readDigits (name text : String) : Except CommandError Bytes :=
  (Hex.decodeMarked (Text.trim text)).mapError fun e => .digits name e

/-- Reads a storage key. Fewer than 32 bytes are filled up with zeros on the left. -/
def readStorageKey (text : String) : Except CommandError (FixedBytes 32) := do
  let bytes ← readDigits "storage key" text
  match FixedBytes.leftPad? 32 bytes with
  | some key => .ok key
  | none => .error (.longStorageKey text)

/-- The storage keys behind the colon of an entry. Blank ones are left out. -/
def readStorageKeys (text : List Char) : Except CommandError (List (FixedBytes 32)) :=
  ((Text.splitAt ',' text).filter (Text.trimChars · ≠ [])).mapM (readStorageKey ∘ String.ofList)

/-- Reads an entry of the access list: an address, and behind a colon its storage keys with commas
between them. -/
def readAccessEntry (text : String) : Except CommandError AccessEntry := do
  let (address, keys) := Text.cutAt ':' text.toList
  let address ← (Address.ofHex (String.ofList address)).mapError fun e => .accessEntry text e
  .ok ⟨address, ← readStorageKeys (keys.getD [])⟩

/-- The fields as they were given. What is left out is taken from the configuration. -/
structure FieldArgs where
  chainId : Option String := none
  nonce : UInt64 := 0
  maxPriorityFee : Option String := none
  maxFee : Option String := none
  gasLimit : Option UInt64 := none
  recipient : Option String := none
  value : String := "0"
  data : String := ""
  access : List String := []
deriving DecidableEq, Repr

namespace FieldArgs

/-- Reads the recipient; without one the transaction makes a contract. -/
def readRecipient (args : FieldArgs) : Except CommandError (Option Address) :=
  match args.recipient with
  | none => .ok none
  | some text => ((Address.ofHex text).mapError fun e => .address "to" e).map some

/-- The transaction that the fields describe, or the first fault among them. -/
def toTransaction (args : FieldArgs) (chain : ChainConfig) : Except CommandError Transaction := do
  let chainId ← match args.chainId with
    | some text => readAmount "chain-id" text
    | none => .ok chain.chainId.toNat
  let maxPriorityFee ←
    readAmount "max-priority-fee" (args.maxPriorityFee.getD chain.maxPriorityFee)
  let maxFee ← readAmount "max-fee" (args.maxFee.getD chain.maxFee)
  let recipient ← args.readRecipient
  let accessList ← args.access.mapM readAccessEntry
  let value ← readAmount "value" args.value
  let data ← readDigits "data" args.data
  .ok {
    chainId, nonce := args.nonce, maxPriorityFee, maxFee
    gasLimit := args.gasLimit.getD chain.gasLimit
    recipient, value, data, accessList }

end FieldArgs

end HybridTx
