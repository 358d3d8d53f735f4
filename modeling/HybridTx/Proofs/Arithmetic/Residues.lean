import Mathlib.Data.ZMod.Units
import Mathlib.Tactic.LinearCombination
import HybridTx.Arithmetic.Modular
import HybridTx.Proofs.Bytes.Digits

/-! Arithmetic of residues, read in the ring of residues. -/

namespace HybridTx

variable {modulus : Nat}

theorem cast_subMod {a b : Nat} (h : b ≤ modulus) :
    (subMod modulus a b : ZMod modulus) = a - b := by
  rw [subMod, ZMod.natCast_mod, Nat.add_sub_assoc h, Nat.cast_add, Nat.cast_sub h,
    ZMod.natCast_self, zero_sub, sub_eq_add_neg]

theorem eq_of_cast_eq {a b : Nat} (ha : a < modulus) (hb : b < modulus)
    (h : (a : ZMod modulus) = b) : a = b := by
  have hmod := (ZMod.natCast_eq_natCast_iff' a b modulus).mp h
  rwa [Nat.mod_eq_of_lt ha, Nat.mod_eq_of_lt hb] at hmod

theorem natCast_ne_zero_of_lt {a : Nat} (h0 : a ≠ 0) (h : a < modulus) :
    (a : ZMod modulus) ≠ 0 := by
  intro hzero
  exact h0 (eq_of_cast_eq h (Nat.zero_lt_of_lt h) (hzero.trans Nat.cast_zero.symm))

theorem cast_powBits (base width exponent : Nat) (h : exponent < 2 ^ width) :
    (powBits modulus base width exponent : ZMod modulus) = base ^ exponent := by
  induction width generalizing exponent with
  | zero =>
    have hzero : exponent = 0 := by simpa using h
    simp [powBits, hzero]
  | succ width ih =>
    have hhalf : exponent / 2 < 2 ^ width := by
      rw [Nat.pow_succ] at h
      omega
    have hsplit : exponent = exponent / 2 + exponent / 2 + exponent % 2 := by omega
    rw [powBits]
    split
    · next hodd =>
      rw [ZMod.natCast_mod, Nat.cast_mul, ZMod.natCast_mod, Nat.cast_mul, ih _ hhalf, ← pow_add,
        ← pow_succ, ← hodd, ← hsplit]
    · next heven =>
      rw [ZMod.natCast_mod, Nat.cast_mul, ih _ hhalf, ← pow_add]
      congr 1
      omega

/-- The power that is computed bit by bit. -/
theorem cast_powMod (base exponent : Nat) :
    (powMod modulus base exponent : ZMod modulus) = base ^ exponent :=
  cast_powBits base _ exponent (bitLength_le_iff.mp le_rfl)

theorem isUnit_powMod {base : Nat} (h : IsUnit (base : ZMod modulus)) (exponent : Nat) :
    IsUnit (powMod modulus base exponent : ZMod modulus) := by
  rw [cast_powMod]
  exact h.pow exponent

theorem powMod_lt {base exponent : Nat} (h : 0 < modulus) :
    powMod modulus base exponent < modulus := by
  rw [powMod]
  cases bitLength exponent with
  | zero => exact Nat.mod_lt _ h
  | succ width =>
    rw [powBits]
    split <;> exact Nat.mod_lt _ h

/-- When both remainders are their factors times one residue, so is their greatest common divisor,
with the factor that Euclid's algorithm gives. -/
theorem cast_gcd_eq_euclid {value : ZMod modulus} (r₀ r₁ : Nat) (t₀ t₁ : Int)
    (h₀ : (r₀ : ZMod modulus) = t₀ * value) (h₁ : (r₁ : ZMod modulus) = t₁ * value) :
    ((Nat.gcd r₀ r₁ : Nat) : ZMod modulus) = euclid r₀ r₁ t₀ t₁ * value := by
  fun_induction euclid r₀ r₁ t₀ t₁ with
  | case1 r₀ t₀ t₁ => simpa using h₀
  | case2 r₀ r₁ t₀ t₁ hr ih =>
    rw [Nat.gcd_comm, Nat.gcd_rec, Nat.gcd_comm]
    refine ih h₁ ?_
    have hsplit : ((r₀ % r₁ : Nat) : ZMod modulus) = r₀ - r₁ * (r₀ / r₁ : Nat) := by
      rw [eq_sub_iff_add_eq, ← Nat.cast_mul, ← Nat.cast_add, Nat.mod_add_div]
    rw [hsplit, h₀, h₁, Int.cast_sub, Int.cast_mul, Int.cast_natCast]
    ring

theorem inverse_lt {value : Nat} (h : 0 < modulus) : inverse modulus value < modulus := by
  have hlt := Int.emod_lt_of_pos (euclid modulus (value % modulus) 0 1) (Int.natCast_pos.mpr h)
  rw [inverse]
  omega

/-- The inverse of a residue that has no factor in common with the modulus. -/
theorem cast_inverse_mul {value : Nat} (hpos : 0 < modulus) (h : IsUnit (value : ZMod modulus)) :
    (inverse modulus value : ZMod modulus) * value = 1 := by
  have hcoprime : Nat.gcd modulus (value % modulus) = 1 := by
    rw [Nat.gcd_comm, ← Nat.gcd_rec, Nat.gcd_comm]
    exact (ZMod.isUnit_iff_coprime value modulus).mp h
  have hmodulus : ((modulus : Nat) : ZMod modulus) = (0 : Int) * (value : ZMod modulus) := by simp
  have hvalue : ((value % modulus : Nat) : ZMod modulus) = (1 : Int) * (value : ZMod modulus) := by
    simp
  have hfactor := cast_gcd_eq_euclid _ _ _ _ hmodulus hvalue
  have hnonneg : 0 ≤ euclid modulus (value % modulus) 0 1 % modulus := Int.emod_nonneg _ (by omega)
  rw [hcoprime, Nat.cast_one] at hfactor
  rw [hfactor, inverse, ← Int.cast_natCast, Int.toNat_of_nonneg hnonneg, ZMod.intCast_mod]

end HybridTx
