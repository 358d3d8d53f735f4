import HybridTx.Arithmetic.Modular
import HybridTx.Dilithium.Parameters

/-! Polynomials over the residues, and the transform that turns their product into a product
coefficient by coefficient. -/

namespace HybridTx.Dilithium

/-- The residues of the coefficients, from the constant one up. -/
abbrev Poly := List Nat

/-- The residue of a difference `a - b` of numbers. -/
def difference (a b : Nat) : Nat := (a + modulus - b % modulus) % modulus

/-- The absolute value of a residue taken between `-modulus / 2` and `modulus / 2`. -/
def magnitude (a : Nat) : Nat := if 2 * a < modulus then a else modulus - a

/-- The bits of a number below 256 in reverse order. -/
def reverseBits (n : Nat) : Nat :=
  (List.range 8).foldl (fun reversed i => 2 * reversed + n / 2 ^ i % 2) 0

/-- Powers of a 512th root of one, in the order in which the transform uses them. -/
def roots : Array Nat :=
  ((List.range 256).map fun k => powMod modulus 1753 (reverseBits k)).toArray

/-- The inverses of `roots`. -/
def inverseRoots : Array Nat := roots.map (inverse modulus)

namespace Poly

/-- All coefficients zero. -/
def zero : Poly := List.replicate degree 0

/-- Adds coefficient by coefficient. -/
def add (a b : Poly) : Poly := List.zipWith (fun x y => (x + y) % modulus) a b

/-- Subtracts coefficient by coefficient. -/
def sub (a b : Poly) : Poly := List.zipWith difference a b

/-- Multiplies by a number. -/
def scale (factor : Nat) (a : Poly) : Poly := a.map (· * factor % modulus)

/-- Multiplies coefficient by coefficient. -/
def pointwise (a b : Poly) : Poly := List.zipWith (fun x y => x * y % modulus) a b

/-- The transform of `2 ^ depth` coefficients at node `node` of the tree of half-size transforms:
each half is the remainder of the polynomial by a factor of its modulus. -/
def splitNode : (depth node : Nat) → Poly → Poly
  | 0, _, a => a
  | depth + 1, node, a =>
    let low := a.take (2 ^ depth)
    let high := scale (roots.getD node 0) (a.drop (2 ^ depth))
    splitNode depth (2 * node) (add low high) ++ splitNode depth (2 * node + 1) (sub low high)

/-- Undoes `splitNode`, but for a factor of `2 ^ depth`. -/
def joinNode : (depth node : Nat) → Poly → Poly
  | 0, _, a => a
  | depth + 1, node, a =>
    let low := joinNode depth (2 * node) (a.take (2 ^ depth))
    let high := joinNode depth (2 * node + 1) (a.drop (2 ^ depth))
    add low high ++ scale (inverseRoots.getD node 0) (sub low high)

/-- The transform. -/
def transform (a : Poly) : Poly := splitNode 8 1 a

/-- The inverse of the transform. -/
def untransform (a : Poly) : Poly := scale (inverse modulus degree) (joinNode 8 1 a)

/-- All coefficients lie strictly within `bound` of zero. -/
def within (bound : Nat) (a : Poly) : Bool := a.all (magnitude · < bound)

end Poly

/-- The sum of the products of a row of a transformed matrix with a transformed vector. -/
def dot (row vector : List Poly) : Poly :=
  (List.zipWith Poly.pointwise row vector).foldl Poly.add Poly.zero

end HybridTx.Dilithium
