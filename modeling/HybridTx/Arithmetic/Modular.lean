import HybridTx.Bytes.Basic

/-! Arithmetic of residues. -/

namespace HybridTx

/-- The power `base ^ exponent` modulo `modulus`, from the top bit down; `width` bounds the bits of
the exponent. -/
def powBits (modulus base : Nat) : (width : Nat) → (exponent : Nat) → Nat
  | 0, _ => 1 % modulus
  | width + 1, exponent =>
    let half := powBits modulus base width (exponent / 2)
    let square := half * half % modulus
    if exponent % 2 = 1 then square * base % modulus else square

/-- The power `base ^ exponent` modulo `modulus`. -/
def powMod (modulus base exponent : Nat) : Nat :=
  powBits modulus base (bitLength exponent) exponent

/-- Euclid's algorithm on two remainders, with the factor that goes with each: modulo the number
that was divided first, a remainder is its factor times the number that was divided by. -/
def euclid (r₀ r₁ : Nat) (t₀ t₁ : Int) : Int :=
  if _h : r₁ = 0 then t₀ else euclid r₁ (r₀ % r₁) t₁ (t₀ - (r₀ / r₁ : Nat) * t₁)
termination_by r₁
decreasing_by exact Nat.mod_lt _ (Nat.pos_of_ne_zero (by assumption))

/-- The inverse of a residue that has no factor in common with the modulus. -/
def inverse (modulus value : Nat) : Nat := (euclid modulus (value % modulus) 0 1 % modulus).toNat

/-- The difference of two residues. -/
def subMod (modulus a b : Nat) : Nat := (a + modulus - b) % modulus

end HybridTx
