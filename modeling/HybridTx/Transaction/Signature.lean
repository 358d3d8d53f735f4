import HybridTx.Bytes.Basic

/-! The classical signature that a transaction carries. -/

namespace HybridTx

/-- An ECDSA signature with the parity that tells which of two keys made it. -/
structure EcdsaSignature where
  yParity : UInt8
  r : Nat
  s : Nat
deriving DecidableEq, Repr

/-- The components of a signature have at most this many bits. -/
def componentBits : Nat := 256

/-- The shape of a signature: a parity of 0 or 1 and components of at most 256 bits. Whether it
verifies is another matter. -/
def EcdsaSignature.WellFormed (signature : EcdsaSignature) : Prop :=
  signature.yParity ≤ 1 ∧ bitLength signature.r ≤ componentBits ∧
    bitLength signature.s ≤ componentBits

instance (signature : EcdsaSignature) : Decidable signature.WellFormed :=
  inferInstanceAs (Decidable (_ ∧ _ ∧ _))

end HybridTx
