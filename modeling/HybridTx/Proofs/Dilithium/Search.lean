import HybridTx.Dilithium.Scheme
import HybridTx.Proofs.Bytes.Little
import Mathlib.Computability.Partrec

/-! The search for a mask. Trying one mask after the other has no end where every mask is refused.
The masks come again after `maskCount` of them, so a search that long is as good as one without a
bound. -/

namespace HybridTx.Dilithium

open Keccak

variable {p : Parameters}

/-- What the mask with a number makes of a message, unless it is refused. -/
def signWithMask? (p : Parameters) (secret message : Bytes) (number : Nat) : Option Bytes :=
  let key := SecretParts.ofBytes p secret
  let digest := messageDigest key.publicDigest message
  attempt p key digest (shake256Sponge.output 64 (key.maskSeed ++ List.replicate 32 0 ++ digest))
    number

/-- The signature from the first mask that gives one, however many are tried before it. -/
def searchMasks (p : Parameters) (secret message : Bytes) : Part Bytes :=
  Nat.rfindOpt (signWithMask? p secret message)

theorem mem_rfindOpt {α : Type} {f : Nat → Option α} {a : α} :
    a ∈ Nat.rfindOpt f ↔ ∃ n, f n = some a ∧ ∀ m < n, f m = none := by
  change a ∈ (Nat.rfind fun n => (f n).isSome).bind (fun n => (f n : Part α)) ↔ _
  simp only [Part.mem_bind_iff, Part.mem_coe, Option.mem_def]
  refine exists_congr fun n => (and_congr_left fun hn => Nat.mem_rfind.trans ?_).trans and_comm
  simp [hn]

theorem sampleMask_mod (seed : Bytes) (number : Nat) :
    sampleMask p seed (number % maskCount) = sampleMask p seed number := by
  rw [sampleMask, sampleMask, seedWith, seedWith]
  have hcount : maskCount = 256 ^ 2 := rfl
  rw [hcount, Bytes.littleEndian_mod]

theorem attempt_mod (key : SecretParts) (digest maskSeed : Bytes) (number : Nat) :
    attempt p key digest maskSeed (number % maskCount) = attempt p key digest maskSeed number := by
  have hmask : ∀ i, sampleMask p maskSeed (p.columns * (number % maskCount) + i) =
      sampleMask p maskSeed (p.columns * number + i) := by
    intro i
    rw [← sampleMask_mod, ← sampleMask_mod _ (p.columns * number + i), Nat.add_mod, Nat.mul_mod,
      Nat.mod_mod, ← Nat.mul_mod, ← Nat.add_mod]
  unfold attempt
  simp only [hmask]

theorem search_eq_some {key : SecretParts} {digest maskSeed signature : Bytes}
    {attempts number : Nat} :
    search p key digest maskSeed attempts number = some signature ↔
      ∃ i < attempts, attempt p key digest maskSeed (number + i) = some signature ∧
        ∀ j < i, attempt p key digest maskSeed (number + j) = none := by
  induction attempts generalizing number with
  | zero => exact iff_of_false nofun nofun
  | succ attempts ih =>
    rw [search, Nat.exists_lt_succ_left]
    cases hfirst : attempt p key digest maskSeed number with
    | some found =>
      simp only [Nat.forall_lt_succ_left, Nat.add_zero, hfirst, reduceCtorEq, false_and, and_false,
        exists_false, or_false, Nat.not_lt_zero, false_imp_iff, implies_true, and_true]
    | none =>
      simp only [ih, Nat.forall_lt_succ_left, Nat.add_zero, hfirst, reduceCtorEq, true_and,
        false_and, false_or, Nat.add_assoc, Nat.add_comm 1]

/-- Signing is the search without a bound. -/
theorem sign?_eq_searchMasks (secret message : Bytes) :
    (sign? p secret message : Part Bytes) = searchMasks p secret message := by
  apply Part.ext
  intro signature
  rw [Part.mem_coe, Option.mem_def, searchMasks, mem_rfindOpt, sign?, search_eq_some]
  simp only [Nat.zero_add]
  refine exists_congr fun number => and_iff_right_of_imp fun ⟨hfound, hbefore⟩ => ?_
  -- A mask whose number is too high is one of those before it.
  by_contra hhigh
  have hmod : number % maskCount < number :=
    (Nat.mod_lt _ (by decide)).trans_le (Nat.le_of_not_lt hhigh)
  have hrefused := hbefore _ hmod
  rw [attempt_mod] at hrefused
  cases hrefused.symm.trans hfound

theorem sign?_eq_none {secret message : Bytes} :
    sign? p secret message = none ↔ ¬(searchMasks p secret message).Dom := by
  rw [← sign?_eq_searchMasks, Part.ofOption_dom, Option.not_isSome_iff_eq_none]

end HybridTx.Dilithium
