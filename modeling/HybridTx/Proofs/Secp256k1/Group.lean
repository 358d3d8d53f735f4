import HybridTx.Proofs.Secp256k1.Multiples
import HybridTx.Proofs.Secp256k1.Primes
import Mathlib.AlgebraicGeometry.EllipticCurve.Affine.Point
import Mathlib.GroupTheory.OrderOfElement

/-! The points that are computed with are those of the curve as a group: doubles, sums and multiples
are the group's. The generator has the group order, so its multiples are told apart by residues. -/

namespace HybridTx.Secp256k1

open WeierstrassCurve

/-- The curve y² = x³ + 7 over the field. -/
def curve : WeierstrassCurve.Affine (ZMod fieldPrime) := ⟨0, 0, 0, 0, 7⟩

section Formulas

variable (x x' y slope : ZMod fieldPrime)

theorem negY_curve : curve.negY x y = -y := by
  simp [Affine.negY, curve]

theorem addX_curve : curve.addX x x' slope = slope ^ 2 - x - x' := by
  simp [Affine.addX, curve]

theorem addY_curve :
    curve.addY x x' y slope = slope * (x - curve.addX x x' slope) - y := by
  rw [Affine.addY, negY_curve, Affine.negAddY]
  ring

end Formulas

/-- The point is the given one of the group, with reduced coordinates. -/
inductive Names : Point → curve.Point → Prop
  | infinity : Names .infinity 0
  | affine {x y : Nat} (hx : x < fieldPrime) (hy : y < fieldPrime) (h : curve.Nonsingular x y) :
    Names (.affine x y) (.some x y h)

section Coordinates

variable {x y : Nat} {p q : Point} {P Q : curve.Point}

theorem cast_inverse_eq (h : (x : ZMod fieldPrime) ≠ 0) :
    (inverse fieldPrime x : ZMod fieldPrime) = (x : ZMod fieldPrime)⁻¹ :=
  eq_inv_of_mul_eq_one_left (cast_inverse (IsUnit.mk0 _ h))

theorem Names.of_eq {X Y : ZMod fieldPrime} (h : curve.Nonsingular X Y) (hx : x < fieldPrime)
    (hy : y < fieldPrime) (hX : (x : ZMod fieldPrime) = X) (hY : (y : ZMod fieldPrime) = Y) :
    Names (.affine x y) (.some X Y h) := by
  subst hX hY
  exact .affine hx hy h

theorem Names.affine_inv {X Y : ZMod fieldPrime} {h : curve.Nonsingular X Y}
    (hp : Names p (.some X Y h)) :
    ∃ x y, p = .affine x y ∧ x < fieldPrime ∧ y < fieldPrime ∧ (x : ZMod fieldPrime) = X ∧
      (y : ZMod fieldPrime) = Y := by
  cases hp with
  | affine hx hy _ => exact ⟨_, _, rfl, hx, hy, rfl, rfl⟩

theorem Names.unique (hp : Names p P) (hq : Names q P) : p = q := by
  cases hp with
  | infinity =>
    cases hq with
    | infinity => rfl
  | affine hx hy h =>
    obtain ⟨x', y', rfl, hx', hy', hxx, hyy⟩ := hq.affine_inv
    rw [eq_of_cast_eq hx' hx hxx, eq_of_cast_eq hy' hy hyy]

end Coordinates

section Sums

variable {x1 y1 x2 y2 slope : Nat} {p q : Point} {P Q : curve.Point}

/-- The third point on a line through two points, reflected, is their sum. -/
theorem names_third (hx1 : x1 < fieldPrime) (hy1 : y1 < fieldPrime) (hx2 : x2 < fieldPrime)
    {h1 : curve.Nonsingular x1 y1} {h2 : curve.Nonsingular x2 y2}
    (hne : ¬((x1 : ZMod fieldPrime) = x2 ∧ (y1 : ZMod fieldPrime) = curve.negY x2 y2))
    (hslope : (slope : ZMod fieldPrime) = curve.slope x1 x2 y1 y2) :
    Names (Point.third slope x1 y1 x2) (.some _ _ h1 + .some _ _ h2) := by
  obtain ⟨x, y, hthird, hx, hy, hX, hY⟩ := @Point.third_eq slope x1 y1 x2 hx1 hy1 hx2
  rw [hthird, Affine.Point.add_some hne]
  have hsum : (x : ZMod fieldPrime) = curve.addX x1 x2 (curve.slope x1 x2 y1 y2) := by
    rw [hX, addX_curve, hslope]
  refine .of_eq _ hx hy hsum ?_
  rw [hY, addY_curve, ← hsum, hslope]

theorem Names.double (hp : Names p P) : Names p.double (P + P) := by
  cases hp with
  | infinity =>
    rw [add_zero]
    exact .infinity
  | @affine x y hx hy h =>
    rw [Point.double]
    split
    · next hzero =>
      subst hzero
      have hneg : ((0 : Nat) : ZMod fieldPrime) = curve.negY x (0 : Nat) := by
        rw [negY_curve, Nat.cast_zero, neg_zero]
      rw [Affine.Point.add_self_of_Y_eq hneg]
      exact .infinity
    · next hne =>
      have hy0 := natCast_ne_zero_of_lt hne hy
      have htwo : ((2 * y : Nat) : ZMod fieldPrime) ≠ 0 := by
        rw [Nat.cast_mul]
        exact mul_ne_zero (natCast_ne_zero_of_lt (by decide) (by decide)) hy0
      have hneg : (y : ZMod fieldPrime) ≠ curve.negY x y := by
        rw [negY_curve]
        intro h
        apply htwo
        rw [Nat.cast_mul]
        linear_combination h
      refine names_third hx hy hx (fun h => hneg h.2) ?_
      rw [Affine.slope_of_Y_ne rfl hneg, negY_curve, ZMod.natCast_mod, Nat.cast_mul,
        cast_inverse_eq htwo, ← div_eq_mul_inv]
      congr 1
      · simp [curve]
        ring
      · push_cast
        ring

theorem Names.add (hp : Names p P) (hq : Names q Q) : Names (p.add q) (P + Q) := by
  cases hp with
  | infinity =>
    rw [zero_add]
    exact hq
  | @affine x1 y1 hx1 hy1 h1 =>
    cases hq with
    | infinity =>
      rw [add_zero]
      exact .affine hx1 hy1 h1
    | @affine x2 y2 hx2 hy2 h2 =>
      rw [Point.add]
      split
      · next hx =>
        subst hx
        split
        · next hy =>
          subst hy
          exact (Names.affine hx1 hy1 h1).double
        · next hy =>
          have hopposite : (y1 : ZMod fieldPrime) = curve.negY x1 y2 :=
            (Affine.Y_eq_of_X_eq h1.1 h2.1 rfl).resolve_left fun h => hy (eq_of_cast_eq hy1 hy2 h)
          rw [Affine.Point.add_of_Y_eq rfl hopposite]
          exact .infinity
      · next hx =>
        have hX : (x1 : ZMod fieldPrime) ≠ x2 := fun h => hx (eq_of_cast_eq hx1 hx2 h)
        refine names_third hx1 hy1 hx2 (fun h => hX h.1) ?_
        have hdifference : (subMod fieldPrime x2 x1 : ZMod fieldPrime) ≠ 0 := by
          rw [cast_subMod hx1.le, sub_ne_zero]
          exact hX.symm
        rw [Affine.slope_of_X_ne hX, ZMod.natCast_mod, Nat.cast_mul, cast_inverse_eq hdifference,
          cast_subMod hx1.le, cast_subMod hy1.le, ← div_eq_mul_inv, ← neg_sub,
          ← neg_sub (x1 : ZMod fieldPrime), neg_div_neg_eq]

theorem Names.mulBits (hp : Names p P) {width scalar : Nat} (h : scalar < 2 ^ width) :
    Names (p.mulBits width scalar) (scalar • P) := by
  -- On the bits: the higher ones make half of the multiple, which is doubled.
  induction width generalizing scalar with
  | zero =>
    obtain rfl : scalar = 0 := by simpa using h
    rw [zero_nsmul]
    exact .infinity
  | succ width ih =>
    have hhalf : scalar / 2 < 2 ^ width := by
      rw [Nat.pow_succ] at h
      omega
    have htwice := (ih hhalf).double
    rw [← add_nsmul] at htwice
    rw [Point.mulBits]
    split
    · next hodd =>
      have hsplit : scalar = scalar / 2 + scalar / 2 + 1 := by omega
      have hsum := htwice.add hp
      rwa [← succ_nsmul, ← hsplit] at hsum
    · next heven =>
      have hsplit : scalar / 2 + scalar / 2 = scalar := by omega
      rwa [hsplit] at htwice

theorem Names.mul (hp : Names p P) (scalar : Nat) :
    Names (Point.mul scalar p) (scalar • P) :=
  hp.mulBits (bitLength_le_iff.mp le_rfl)

end Sums

section Names

variable {x y : Nat} {p : Point} {P Q : curve.Point}

theorem Names.eq (hp : Names p P) (hq : Names p Q) : P = Q := by
  cases hp with
  | infinity =>
    cases hq
    rfl
  | affine hx hy h =>
    cases hq
    rfl

theorem Names.neg (hy0 : y ≠ 0) (hp : Names (.affine x y) P) :
    Names (.affine x (fieldPrime - y)) (-P) := by
  cases hp with
  | affine hx hy h =>
    rw [Affine.Point.neg_some]
    refine .of_eq _ hx (Nat.sub_lt (by decide) (Nat.pos_of_ne_zero hy0)) rfl ?_
    rw [Nat.cast_sub hy.le, ZMod.natCast_self, zero_sub, negY_curve]

/-- No point with a y is its own opposite, so the curve has a slope there. -/
theorem nonsingular_of_equation (hy0 : y ≠ 0) (hy : y < fieldPrime)
    (h : y * y % fieldPrime = (x * x * x + 7) % fieldPrime) : curve.Nonsingular x y := by
  rw [Affine.nonsingular_iff, Affine.equation_iff]
  constructor
  · have hcast := (ZMod.natCast_eq_natCast_iff' _ _ _).mpr h
    push_cast at hcast
    simp only [curve]
    linear_combination hcast
  · right
    have htwo : ((2 : Nat) : ZMod fieldPrime) ≠ 0 :=
      natCast_ne_zero_of_lt (by decide) (by decide)
    have hyz := natCast_ne_zero_of_lt hy0 hy
    intro hneg
    refine mul_ne_zero htwo hyz ?_
    simp only [curve] at hneg
    push_cast
    linear_combination hneg

end Names

/-- The point of the group that generates the multiples. -/
def base : curve.Point :=
  .some _ _ (nonsingular_of_equation
    (x := 0x79be667ef9dcbbac55a06295ce870b07029bfcdb2dce28d959f2815b16f81798)
    (y := 0x483ada7726a3c4655da4fbfc0e1108a8fd17b448a68554199c47d08ffb10d4b8) (by decide)
    (by decide) (by decide))

theorem names_generator : Names generator base := .affine (by decide) (by decide) _

theorem groupOrder_nsmul_base : groupOrder • base = 0 := by
  have hopposite : Point.mul (groupOrder - 1) generator = .affine
      0x79be667ef9dcbbac55a06295ce870b07029bfcdb2dce28d959f2815b16f81798
      (fieldPrime - 0x483ada7726a3c4655da4fbfc0e1108a8fd17b448a68554199c47d08ffb10d4b8) :=
    Point.mul_eq_of_isMultiple (by decide) (by decide) (by decide +kernel)
  have hmultiple := names_generator.mul (groupOrder - 1)
  rw [hopposite] at hmultiple
  have hneg := hmultiple.eq (names_generator.neg (by decide))
  have hsplit : groupOrder = groupOrder - 1 + 1 := by decide
  rw [hsplit, succ_nsmul, hneg, neg_add_cancel]

theorem addOrderOf_base : addOrderOf base = groupOrder :=
  addOrderOf_eq_prime groupOrder_nsmul_base (Affine.Point.some_ne_zero _)

theorem nsmul_base_eq_iff {a b : Nat} : a • base = b • base ↔ (a : ZMod groupOrder) = b := by
  rw [nsmul_eq_nsmul_iff_modEq, addOrderOf_base, ZMod.natCast_eq_natCast_iff]

end HybridTx.Secp256k1
