import HybridTx.Dilithium.Ring

/-! Splitting residues into high and low parts, and the hints that repair a high part. -/

namespace HybridTx.Dilithium

/-- The multiple of `2 ^ droppedBits` nearest to a residue, and the residue of what is left. -/
def splitDropped (a : Nat) : Nat × Nat :=
  let high := (a + 2 ^ (droppedBits - 1) - 1) / 2 ^ droppedBits
  (high, difference a (high * 2 ^ droppedBits))

/-- The number of high parts. -/
def highParts (p : Parameters) : Nat := (modulus - 1) / (2 * p.step)

/-- The step nearest to a residue, counted modulo `highParts`, and the residue of what is left.
Residues nearest to the modulus belong to step zero. -/
def splitStep (p : Parameters) (a : Nat) : Nat × Nat :=
  let high := (a + p.step - 1) / (2 * p.step)
  if high = highParts p then (0, a)
  else (high, difference a (high * (2 * p.step)))

/-- A hint is needed: adding the low part changes the high part. -/
def needsHint (p : Parameters) (low high : Nat) : Bool :=
  magnitude low > p.step || (low == modulus - p.step && high != 0)

/-- The high part of a residue, moved one step if there is a hint: down when the low part is
negative, and up otherwise. -/
def applyHint (p : Parameters) (hint : Bool) (a : Nat) : Nat :=
  let (high, low) := splitStep p a
  if !hint then high
  else if 2 * low < modulus then (high + 1) % highParts p
  else (high + highParts p - 1) % highParts p

end HybridTx.Dilithium
