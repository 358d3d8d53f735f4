import HybridTx.Keys.Error
import HybridTx.Secp256k1.Ecdsa
import HybridTx.Signing.Backend

/-! Secret keys of the curve, their texts, and the backend that signs and recovers with them. -/

namespace HybridTx.Secp256k1

/-- A nonzero number below the group order. -/
structure SecretKey where
  scalar : Nat
  pos : 0 < scalar
  lt : scalar < groupOrder

/-- The wording for numbers that are no key and for signatures that cannot be made. -/
def outOfRange : String := "signature error"

namespace SecretKey

/-- The key with a given number. -/
def ofNat? (scalar : Nat) : Option SecretKey :=
  if h : 0 < scalar ∧ scalar < groupOrder then some ⟨scalar, h.1, h.2⟩ else none

/-- Reads a big-endian number of 24 to 32 bytes. -/
def ofBytes (bytes : Bytes) : Except KeyError SecretKey :=
  if 24 ≤ bytes.length ∧ bytes.length ≤ 32 then
    match ofNat? bytes.toNat with
    | some key => .ok key
    | none => .error (.invalidSecretKey outOfRange)
  else .error (.invalidSecretKey outOfRange)

/-- Reads digits after one optional `0x`, with blanks around. -/
def ofHex (text : String) : Except KeyError SecretKey := do
  let bytes ← (Hex.decodeMarked (Text.trim text)).mapError fun e => .invalidSecretKey e.message
  ofBytes bytes

/-- The 32 bytes of a key. -/
def toBytes (key : SecretKey) : FixedBytes 32 := .ofNat 32 key.scalar

/-- The 64 digits of a key. -/
def toHex (key : SecretKey) : String := Hex.encode key.toBytes.bytes

/-- The account that a key controls. -/
def address (key : SecretKey) : Address := (Point.mul key.scalar generator).address

/-- How a key shows in diagnostics: by its account, never by its digits. -/
def describe (key : SecretKey) : String := "EcdsaSecretKey(" ++ key.address.display ++ ")"

/-- The signature over a hash. -/
def sign (key : SecretKey) (hash : TxHash) : Except KeyError EcdsaSignature :=
  let signature? := do
    let nonce ← nonce? key.toBytes.bytes hash.bytes
    signWithNonce? key.scalar nonce hash.toNat
  match signature? with
  | some signature => .ok signature
  | none => .error (.signingFailed outOfRange)

end SecretKey

/-- Signs with keys of the curve. -/
def signer (m : Type → Type) [Monad m] : ClassicalSigner m SecretKey where
  sign key hash := pure ((key.sign hash).mapError KeyError.toSignerError)

/-- Recovers accounts. It never fails. -/
def verifier (m : Type → Type) [Monad m] : ClassicalVerifier m where
  recover hash signature := pure (.ok (recoverAddress hash signature))

end HybridTx.Secp256k1
