import HybridTx.Hash.Sha256
import HybridTx.Secp256k1.Curve

/-! The secret number of a signature, drawn from the key and the digest alone, so that signing twice
gives the same signature and no random source is needed. -/

namespace HybridTx.Secp256k1

/-- A generator of bytes: its key and its last output. -/
structure NonceState where
  key : Bytes
  output : Bytes

namespace NonceState

/-- Mixes `extra` into the generator behind a separating byte. -/
def stir (state : NonceState) (separator : UInt8) (extra : Bytes) : NonceState :=
  let key := Sha256.hmac state.key (state.output ++ separator :: extra)
  ⟨key, Sha256.hmac key state.output⟩

/-- The generator for a key and a digest, each 32 bytes. The digest enters as it is, not reduced
modulo the group order. -/
def start (secret digest : Bytes) : NonceState :=
  let seed := secret ++ digest
  ((NonceState.mk (.replicate 32 0) (.replicate 32 1)).stir 0 seed).stir 1 seed

/-- The first output in `[1, groupOrder)` among the next `attempts`. -/
def draw? : (attempts : Nat) → NonceState → Option Nat
  | 0, _ => none
  | attempts + 1, state =>
    let output := Sha256.hmac state.key state.output
    let candidate := output.toNat
    if 0 < candidate ∧ candidate < groupOrder then some candidate
    else draw? attempts ((NonceState.mk state.key output).stir 0 [])

end NonceState

/-- How many outputs are tried. All but one in 2¹²⁸ outputs are in range. -/
def nonceAttempts : Nat := 64

/-- The secret number for a key and a digest. -/
def nonce? (secret digest : Bytes) : Option Nat :=
  NonceState.draw? nonceAttempts (.start secret digest)

end HybridTx.Secp256k1
