import HybridTx.Hash.Sponge
import HybridTx.Secp256k1.Nonce
import HybridTx.Transaction.Address
import HybridTx.Transaction.Signature

/-! Signatures over the curve, and the account that a signature over a hash comes from. Every
signature has the smaller of its two equivalent forms. -/

namespace HybridTx.Secp256k1

/-- The account of a public key: the last 20 bytes of the Keccak-256 digest of its coordinates. The
point at infinity is no key and has the zero address. -/
def Point.address : Point → Address
  | infinity => .zero
  | affine x y =>
    let digest := Keccak.keccak256 (Bytes.bigEndian 32 x ++ Bytes.bigEndian 32 y)
    ⟨digest.bytes.drop 12, by simp [digest.length_eq]⟩

/-- The larger half of the nonzero scalars. -/
def isHigh (s : Nat) : Bool := s > groupOrder / 2

/-- The signature of a digest with a given secret number. Zero components are no signature. -/
def signWithNonce? (secret nonce digest : Nat) : Option EcdsaSignature :=
  match Point.mul nonce generator with
  | .infinity => none
  | .affine x y =>
    let r := x % groupOrder
    let s := inverse groupOrder nonce * (digest + r * secret) % groupOrder
    if r = 0 ∨ s = 0 then none
    else
      let odd := y % 2 == 1
      if isHigh s then some ⟨if odd then 0 else 1, r, groupOrder - s⟩
      else some ⟨if odd then 1 else 0, r, s⟩

/-- The public key that made a signature over a digest: the sum of two multiples, of the generator
and of the point whose x is `r`. -/
def recoverPoint? (digest r s : Nat) (odd : Bool) : Option Point := do
  let point ← lift? r odd
  let rInverse := inverse groupOrder r
  let ofGenerator := subMod groupOrder 0 (rInverse * digest % groupOrder)
  let ofPoint := rInverse * s % groupOrder
  match ((Point.mul ofGenerator generator).add (Point.mul ofPoint point)) with
  | .infinity => none
  | key => some key

/-- The account that made a signature over a hash. None if the parity is not 0 or 1, a component is
zero or not below the group order, `s` is in the larger half, or no key made it. -/
def recoverAddress (hash : TxHash) (signature : EcdsaSignature) : Option Address := do
  if signature.yParity > 1 then none
  let r ← FixedBytes.ofNat? 32 signature.r
  let s ← FixedBytes.ofNat? 32 signature.s
  if r.toNat = 0 ∨ r.toNat ≥ groupOrder ∨ s.toNat = 0 ∨ s.toNat ≥ groupOrder then none
  if isHigh s.toNat then none
  let key ← recoverPoint? hash.toNat r.toNat s.toNat (signature.yParity == 1)
  some key.address

end HybridTx.Secp256k1
