import HybridTx.Proofs.Arithmetic.Residues
import Mathlib.Data.List.Prime
import Mathlib.NumberTheory.LucasPrimality

/-! Certificates of prime numbers. A number is prime when it has a primitive root: a residue whose
order is the number less one, which the prime factors of that tell. Small factors are tried out, and
large ones have certificates of their own. -/

namespace HybridTx

/-- No number up to the square root divides the number. -/
def isSmallPrime (n : Nat) : Bool :=
  2 ≤ n && n < 316 * 316 && (List.range 316).all fun m => m < 2 || n < m * m || n % m != 0

theorem prime_of_isSmallPrime {n : Nat} (h : isSmallPrime n = true) : n.Prime := by
  simp only [isSmallPrime, Bool.and_eq_true, decide_eq_true_eq, List.all_eq_true, List.mem_range,
    Bool.or_eq_true, bne_iff_ne] at h
  obtain ⟨⟨htwo, hsmall⟩, hnone⟩ := h
  refine Nat.prime_def_le_sqrt.mpr ⟨htwo, fun m hm hle hdvd => ?_⟩
  have hsquare : m * m ≤ n := Nat.le_sqrt.mp hle
  have hbound : m < 316 := by nlinarith
  obtain (h | h) | h := hnone m hbound
  · omega
  · omega
  · exact h (Nat.mod_eq_zero_of_dvd hdvd)

/-- A number, a residue that is to be a primitive root, and the prime factors of the number less
one. -/
structure Certificate where
  number : Nat
  root : Nat
  factors : List Nat

/-- The number is prime if those that are known are. -/
def Certificate.holds (known : List Nat) (c : Certificate) : Bool :=
  c.factors.prod + 1 == c.number && 1 < c.number &&
    powMod c.number c.root (c.number - 1) == 1 &&
    c.factors.all fun q => (isSmallPrime q || known.contains q) &&
      powMod c.number c.root ((c.number - 1) / q) != 1

theorem Certificate.prime_of_holds {known : List Nat} {c : Certificate}
    (hknown : ∀ q ∈ known, q.Prime) (h : c.holds known = true) : c.number.Prime := by
  simp only [holds, Bool.and_eq_true, beq_iff_eq, decide_eq_true_eq, List.all_eq_true,
    Bool.or_eq_true, List.contains_iff_mem, bne_iff_ne] at h
  obtain ⟨⟨⟨hfactors, hone⟩, hpower⟩, hall⟩ := h
  have hprime : ∀ q ∈ c.factors, q.Prime := fun q hq =>
    (hall q hq).1.elim prime_of_isSmallPrime (hknown q)
  have hcast (exponent : Nat) : (c.root : ZMod c.number) ^ exponent = 1 ↔
      powMod c.number c.root exponent = 1 := by
    rw [← cast_powMod, ← Nat.cast_one (R := ZMod c.number), ZMod.natCast_eq_natCast_iff',
      Nat.mod_eq_of_lt (powMod_lt (by omega)), Nat.mod_eq_of_lt hone]
  refine lucas_primality c.number c.root ((hcast _).mpr hpower) fun q hq hdvd hroot => ?_
  have hproduct : c.number - 1 = c.factors.prod := by omega
  rw [hproduct] at hdvd
  have hmem := mem_list_primes_of_dvd_prod hq.prime (fun p hp => (hprime p hp).prime) hdvd
  exact (hall q hmem).2 ((hcast _).mp hroot)

/-- Certificates in turn, each with the numbers of those before it among the known. -/
def allHold : (known : List Nat) → List Certificate → Bool
  | _, [] => true
  | known, c :: rest => c.holds known && allHold (c.number :: known) rest

theorem prime_of_allHold {known : List Nat} {certificates : List Certificate}
    (hknown : ∀ q ∈ known, q.Prime) (h : allHold known certificates = true) :
    ∀ c ∈ certificates, c.number.Prime := by
  induction certificates generalizing known with
  | nil => exact nofun
  | cons c rest ih =>
    simp only [allHold, Bool.and_eq_true] at h
    have hprime := c.prime_of_holds hknown h.1
    exact List.forall_mem_cons.mpr ⟨hprime, ih (List.forall_mem_cons.mpr ⟨hprime, hknown⟩) h.2⟩

theorem prime_of_getLast? {certificates : List Certificate} {c : Certificate}
    (h : allHold [] certificates = true) (hlast : certificates.getLast? = some c) :
    c.number.Prime :=
  prime_of_allHold (List.forall_mem_nil _) h c (List.mem_of_getLast? hlast)

end HybridTx
