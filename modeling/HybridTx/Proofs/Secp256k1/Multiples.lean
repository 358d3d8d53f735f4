import HybridTx.Proofs.Arithmetic.Residues
import HybridTx.Secp256k1.Curve

/-! Multiples of points without divisions. Three residues `x z²`, `y z³` and `z` stand for the point
with the coordinates `x` and `y`, and the triples of sums and doubles need no inverses. They stand
for points as long as `z` is invertible. As `z` only gains factors on the way, it is enough to look
at the last triple. -/

namespace HybridTx.Secp256k1

/-- Three residues of the field, the third a common denominator. -/
structure Triple where
  x : Nat
  y : Nat
  z : Nat

instance : Nontrivial (ZMod fieldPrime) := ZMod.nontrivial_iff.mpr (by decide)

/-- A residue that is the negative of a number. -/
def negative (n : Nat) : Nat := fieldPrime - n % fieldPrime

theorem cast_negative (n : Nat) : (negative n : ZMod fieldPrime) = -n := by
  have hle : n % fieldPrime ≤ fieldPrime := (Nat.mod_lt n (by decide)).le
  rw [negative, Nat.cast_sub hle, ZMod.natCast_self, ZMod.natCast_mod, zero_sub]

namespace Triple

/-- The triple stands for a point whose coordinates are residues. -/
def StandsFor (t : Triple) (p : Point) : Prop :=
  ∃ x y, p = .affine x y ∧ x < fieldPrime ∧ y < fieldPrime ∧
    (t.x : ZMod fieldPrime) = x * t.z ^ 2 ∧ (t.y : ZMod fieldPrime) = y * t.z ^ 3

/-- The triple of a point itself. -/
def ofPoint (x y : Nat) : Triple := ⟨x, y, 1⟩

/-- The triple of a double. -/
def double (t : Triple) : Triple :=
  let square := t.y * t.y % fieldPrime
  let s := 4 * t.x * square % fieldPrime
  let m := 3 * t.x * t.x % fieldPrime
  let x := (m * m + negative (2 * s)) % fieldPrime
  ⟨x, (m * (s + negative x) + negative (8 * square * square)) % fieldPrime,
    2 * t.y * t.z % fieldPrime⟩

/-- The triple of a sum with a point. -/
def addPoint (t : Triple) (x y : Nat) : Triple :=
  let square := t.z * t.z % fieldPrime
  let h := (x * square + negative t.x) % fieldPrime
  let r := (y * square * t.z + negative t.y) % fieldPrime
  let cube := h * h * h % fieldPrime
  let v := t.x * h * h % fieldPrime
  let x' := (r * r + negative (cube + 2 * v)) % fieldPrime
  ⟨x', (r * (v + negative x') + negative (t.y * cube)) % fieldPrime, t.z * h % fieldPrime⟩

/-- The triple of a multiple, none for the point at infinity. -/
def multiple (x y : Nat) : (width : Nat) → (scalar : Nat) → Option Triple
  | 0, _ => none
  | width + 1, scalar =>
    let twice := (multiple x y width (scalar / 2)).map double
    if scalar % 2 = 1 then
      some (match twice with
        | none => ofPoint x y
        | some t => t.addPoint x y)
    else twice

/-- The multiple of one point is another one. -/
def isMultiple (scalar x y x' y' : Nat) : Bool :=
  match multiple x y (bitLength scalar) scalar with
  | none => false
  | some t => Nat.gcd t.z fieldPrime == 1 && x' < fieldPrime && y' < fieldPrime &&
    x' * t.z * t.z % fieldPrime == t.x % fieldPrime &&
    y' * t.z * t.z * t.z % fieldPrime == t.y % fieldPrime

end Triple

variable {x y : Nat} {p : Point} {t : Triple}

theorem cast_inverse {n : Nat} (h : IsUnit (n : ZMod fieldPrime)) :
    (inverse fieldPrime n : ZMod fieldPrime) * n = 1 :=
  cast_inverse_mul (by decide) h

theorem subMod_lt (a b : Nat) : subMod fieldPrime a b < fieldPrime := Nat.mod_lt _ (by decide)

theorem Point.third_eq {slope x1 y1 x2 : Nat} (hx1 : x1 < fieldPrime) (hy1 : y1 < fieldPrime)
    (hx2 : x2 < fieldPrime) :
    ∃ x y, third slope x1 y1 x2 = .affine x y ∧ x < fieldPrime ∧ y < fieldPrime ∧
      (x : ZMod fieldPrime) = slope ^ 2 - x1 - x2 ∧
      (y : ZMod fieldPrime) = slope * (x1 - x) - y1 := by
  refine ⟨_, _, rfl, subMod_lt _ _, subMod_lt _ _, ?_, ?_⟩
  · rw [cast_subMod hx2.le, cast_subMod hx1.le, ZMod.natCast_mod, Nat.cast_mul, pow_two]
  · rw [cast_subMod hy1.le, ZMod.natCast_mod, Nat.cast_mul, cast_subMod (subMod_lt _ _).le]

namespace Triple

theorem standsFor_ofPoint (hx : x < fieldPrime) (hy : y < fieldPrime) :
    (ofPoint x y).StandsFor (.affine x y) :=
  ⟨x, y, rfl, hx, hy, by simp [ofPoint], by simp [ofPoint]⟩

/-- An invertible denominator of a double had an invertible factor. -/
theorem isUnit_of_double (h : IsUnit (t.double.z : ZMod fieldPrime)) :
    IsUnit (2 * t.y : ZMod fieldPrime) ∧ IsUnit (t.z : ZMod fieldPrime) := by
  rwa [double, ZMod.natCast_mod, Nat.cast_mul, Nat.cast_mul, Nat.cast_ofNat, IsUnit.mul_iff] at h

theorem isUnit_of_addPoint (h : IsUnit ((t.addPoint x y).z : ZMod fieldPrime)) :
    IsUnit (t.z : ZMod fieldPrime) ∧
      IsUnit (x * t.z ^ 2 - t.x : ZMod fieldPrime) := by
  rw [addPoint, ZMod.natCast_mod, Nat.cast_mul, IsUnit.mul_iff] at h
  refine ⟨h.1, ?_⟩
  have hsum := h.2
  rwa [ZMod.natCast_mod, Nat.cast_add, cast_negative, Nat.cast_mul, ZMod.natCast_mod,
    Nat.cast_mul, ← pow_two, ← sub_eq_add_neg] at hsum

theorem double_standsFor (h : t.StandsFor p) (hunit : IsUnit (t.double.z : ZMod fieldPrime)) :
    t.double.StandsFor p.double := by
  obtain ⟨x, y, rfl, hx, hy, htx, hty⟩ := h
  have hdenominator := (isUnit_of_double hunit).1
  rw [hty, ← mul_assoc, IsUnit.mul_iff] at hdenominator
  have hunit2 : IsUnit ((2 * y : Nat) : ZMod fieldPrime) := by simpa using hdenominator.1
  have hinverse := cast_inverse hunit2
  have hy0 : y ≠ 0 := by
    rintro rfl
    simp at hunit2
  rw [Point.double, if_neg hy0]
  obtain ⟨x', y', hthird, hx', hy', hxx, hyy⟩ := @Point.third_eq
    (3 * x * x * inverse fieldPrime (2 * y) % fieldPrime) x y x hx hy hx
  rw [ZMod.natCast_mod, Nat.cast_mul] at hxx hyy
  -- Of the inverse nothing matters but its product with `2 * y`; each coordinate is a polynomial
  -- identity up to a multiple of that equation.
  generalize (inverse fieldPrime (2 * y) : ZMod fieldPrime) = u at *
  refine ⟨x', y', hthird, hx', hy', ?_, ?_⟩
  · rw [hxx]
    simp only [double, ZMod.natCast_mod, Nat.cast_mul, Nat.cast_add, cast_negative, htx, hty,
      Nat.cast_ofNat] at hinverse ⊢
    linear_combination (-9 * (x : ZMod fieldPrime) ^ 4 * t.z ^ 8 * (u * (2 * y) + 1)) * hinverse
  · rw [hyy, hxx]
    simp only [double, ZMod.natCast_mod, Nat.cast_mul, Nat.cast_add, cast_negative, htx, hty,
      Nat.cast_ofNat] at hinverse ⊢
    linear_combination (-36 * (x : ZMod fieldPrime) ^ 3 * y ^ 2 * t.z ^ 12 +
      27 * x ^ 6 * t.z ^ 12 * ((u * (2 * y)) ^ 2 + u * (2 * y) + 1)) * hinverse

theorem addPoint_standsFor (h : t.StandsFor p) (hx : x < fieldPrime)
    (hunit : IsUnit ((t.addPoint x y).z : ZMod fieldPrime)) :
    (t.addPoint x y).StandsFor (p.add (.affine x y)) := by
  obtain ⟨x₁, y₁, rfl, hx₁, hy₁, htx, hty⟩ := h
  have hdenominator := (isUnit_of_addPoint hunit).2
  rw [htx, ← sub_mul, IsUnit.mul_iff, ← cast_subMod hx₁.le] at hdenominator
  have hinverse := cast_inverse hdenominator.1
  have hne : x₁ ≠ x := by
    rintro rfl
    simp [cast_subMod hx₁.le] at hdenominator
  rw [Point.add, if_neg hne]
  obtain ⟨x', y', hthird, hx', hy', hxx, hyy⟩ := @Point.third_eq
    (subMod fieldPrime y y₁ * inverse fieldPrime (subMod fieldPrime x x₁) % fieldPrime) x₁ y₁ x
    hx₁ hy₁ hx
  rw [ZMod.natCast_mod, Nat.cast_mul, cast_subMod hy₁.le] at hxx hyy
  rw [cast_subMod hx₁.le] at hinverse
  generalize (inverse fieldPrime (subMod fieldPrime x x₁) : ZMod fieldPrime) = u at *
  refine ⟨x', y', hthird, hx', hy', ?_, ?_⟩
  · rw [hxx]
    simp only [addPoint, ZMod.natCast_mod, Nat.cast_mul, Nat.cast_add, cast_negative, htx, hty,
      Nat.cast_ofNat]
    linear_combination (-(y - y₁ : ZMod fieldPrime) ^ 2 * t.z ^ 6 * (u * (x - x₁) + 1)) * hinverse
  · rw [hyy, hxx]
    simp only [addPoint, ZMod.natCast_mod, Nat.cast_mul, Nat.cast_add, cast_negative, htx, hty,
      Nat.cast_ofNat]
    linear_combination ((y - y₁ : ZMod fieldPrime) * t.z ^ 9 * (-(3 * x₁ + (x - x₁)) * (x - x₁) ^ 2
      + (y - y₁) ^ 2 * ((u * (x - x₁)) ^ 2 + u * (x - x₁) + 1))) * hinverse

/-- The triple of a multiple stands for it, if its own denominator is invertible. -/
theorem multiple_standsFor (hx : x < fieldPrime) (hy : y < fieldPrime) (width scalar : Nat) :
    (multiple x y width scalar = none →
      Point.mulBits (.affine x y) width scalar = .infinity) ∧
    ∀ t, multiple x y width scalar = some t → IsUnit (t.z : ZMod fieldPrime) →
      t.StandsFor (Point.mulBits (.affine x y) width scalar) := by
  -- By induction on the width. That a denominator is invertible goes back from the whole scalar to
  -- its upper half, as every step multiplies it.
  induction width generalizing scalar with
  | zero => simp [multiple, Point.mulBits]
  | succ width ih =>
    obtain ⟨hnone, hsome⟩ := ih (scalar / 2)
    rw [multiple, Point.mulBits]
    cases hhalf : multiple x y width (scalar / 2) with
    | none =>
      rw [hnone hhalf]
      by_cases hodd : scalar % 2 = 1
      · simp only [if_pos hodd]
        refine ⟨nofun, fun t ht hunit => ?_⟩
        cases ht
        exact standsFor_ofPoint hx hy
      · simp [hodd, Point.double]
    | some half =>
      have hdouble := fun hunit : IsUnit (half.double.z : ZMod fieldPrime) =>
        double_standsFor (hsome half hhalf (isUnit_of_double hunit).2) hunit
      by_cases hodd : scalar % 2 = 1
      · simp only [if_pos hodd]
        refine ⟨nofun, fun t ht hunit => ?_⟩
        cases ht
        exact addPoint_standsFor (hdouble (isUnit_of_addPoint hunit).1) hx hunit
      · simp only [if_neg hodd]
        refine ⟨nofun, fun t ht hunit => ?_⟩
        cases ht
        exact hdouble hunit

/-- The coordinates of the point that a triple stands for are told by the triple. -/
theorem StandsFor.eq_affine {x' y' : Nat} (h : t.StandsFor p)
    (hunit : IsUnit (t.z : ZMod fieldPrime)) (hx' : x' < fieldPrime) (hy' : y' < fieldPrime)
    (hx : (x' * t.z ^ 2 : ZMod fieldPrime) = t.x) (hy : (y' * t.z ^ 3 : ZMod fieldPrime) = t.y) :
    p = .affine x' y' := by
  obtain ⟨x, y, rfl, hxlt, hylt, htx, hty⟩ := h
  rw [htx] at hx
  rw [hty] at hy
  rw [eq_of_cast_eq hx' hxlt ((hunit.pow 2).mul_right_cancel hx),
    eq_of_cast_eq hy' hylt ((hunit.pow 3).mul_right_cancel hy)]

end Triple

/-- A multiple that its triple confirms. -/
theorem Point.mul_eq_of_isMultiple {scalar x' y' : Nat} (hx : x < fieldPrime)
    (hy : y < fieldPrime) (h : Triple.isMultiple scalar x y x' y' = true) :
    mul scalar (.affine x y) = .affine x' y' := by
  rw [Triple.isMultiple] at h
  split at h
  · cases h
  · next t ht =>
    simp only [Bool.and_eq_true, decide_eq_true_eq, beq_iff_eq,
      ← ZMod.natCast_eq_natCast_iff'] at h
    obtain ⟨⟨⟨⟨hcoprime, hx'⟩, hy'⟩, htx⟩, hty⟩ := h
    have hunit : IsUnit (t.z : ZMod fieldPrime) := (ZMod.isUnit_iff_coprime _ _).mpr hcoprime
    have hstands := (Triple.multiple_standsFor hx hy _ _).2 t ht hunit
    refine hstands.eq_affine hunit hx' hy' ?_ ?_
    · rw [← htx]
      push_cast
      ring
    · rw [← hty]
      push_cast
      ring

end HybridTx.Secp256k1
