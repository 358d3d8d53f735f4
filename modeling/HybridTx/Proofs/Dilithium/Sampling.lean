import HybridTx.Dilithium.Sampling
import HybridTx.Proofs.Dilithium.Packing
import HybridTx.Proofs.Dilithium.Rounding
import HybridTx.Proofs.Hash.Streaming

/-! Sizes and bounds of what is drawn from a sponge. -/

namespace HybridTx

namespace Keccak.Sponge

variable {sponge : Sponge}

theorem length_squeeze (hrate : sponge.rate ≤ 200) (blocks : Nat) (state : State) :
    (sponge.squeeze blocks state).length = blocks * sponge.rate := by
  induction blocks generalizing state with
  | zero => simp [squeeze]
  | succ blocks ih =>
    rw [squeeze, List.length_append, length_outputBlock hrate, ih, Nat.add_mul]
    omega

/-- A sponge that does not give more bytes between permutations than its state has gives as many
bytes as it is asked for. -/
theorem length_output (hrate : sponge.rate ≤ 200) (count : Nat) (message : Bytes) :
    (sponge.output count message).length = count := by
  have henough : count ≤ (count + sponge.rate - 1) / sponge.rate * sponge.rate := by
    have hpos := sponge.rate_pos
    have hdiv := Nat.lt_div_mul_add hpos (a := count + sponge.rate - 1)
    omega
  rw [output, List.length_take, length_squeeze hrate]
  omega

end Keccak.Sponge

namespace Dilithium

open Keccak

theorem length_shake256 (count : Nat) (message : Bytes) :
    (shake256Sponge.output count message).length = count :=
  Sponge.length_output (by decide) count message

section Collect

variable {sponge : Sponge} {read : Bytes → List Nat}

theorem length_collect (blocks wanted : Nat) (state : State) :
    (collect sponge read blocks wanted state).length = wanted := by
  induction blocks generalizing wanted state with
  | zero => exact List.length_replicate
  | succ blocks ih =>
    rw [collect]
    split
    · rw [List.length_take]
      omega
    · rw [List.length_append, ih]
      omega

/-- What is collected was read, or is zero. -/
theorem forall_mem_collect {property : Nat → Prop} (hzero : property 0)
    (hread : ∀ bytes, ∀ value ∈ read bytes, property value) (blocks wanted : Nat) (state : State) :
    ∀ value ∈ collect sponge read blocks wanted state, property value := by
  induction blocks generalizing wanted state with
  | zero =>
    intro value hvalue
    rw [List.eq_of_mem_replicate hvalue]
    exact hzero
  | succ blocks ih =>
    rw [collect]
    split
    · exact fun value hvalue => hread _ value (List.mem_of_mem_take hvalue)
    · intro value hvalue
      obtain hfound | hlater := List.mem_append.mp hvalue
      · exact hread _ value hfound
      · exact ih _ _ value hlater

end Collect

variable {p : Parameters}

theorem allFull_expandMatrix (seed : Bytes) : ∀ row ∈ expandMatrix p seed, AllFull row := by
  intro row hrow
  obtain ⟨i, -, rfl⟩ := List.mem_map.mp hrow
  intro a ha
  obtain ⟨j, -, rfl⟩ := List.mem_map.mp ha
  exact length_collect _ _ _

/-- The small coefficients of a level, and the bits that they take. -/
theorem Parameters.IsLevel.small (hp : p.IsLevel) :
    p.eta = 2 ∧ p.etaBits = 3 ∨ p.eta = 4 ∧ p.etaBits = 4 := by
  obtain rfl | rfl | rfl := hp
  · exact .inl ⟨rfl, rfl⟩
  · exact .inr ⟨rfl, rfl⟩
  · exact .inl ⟨rfl, rfl⟩

/-- A small coefficient lies within its bound. -/
theorem smallOfNibble?_packable (hp : p.IsLevel) {nibble value : Nat}
    (h : smallOfNibble? p.eta nibble = some value) :
    value < modulus ∧ difference p.eta value < 2 ^ p.etaBits := by
  rw [smallOfNibble?] at h
  obtain ⟨heta, hbits⟩ | ⟨heta, hbits⟩ := hp.small
  · rw [heta, if_pos rfl] at h
    split at h
    · cases h
      refine ⟨difference_lt _ _, ?_⟩
      rw [heta, hbits, difference_difference (by rw [modulus_eq]; omega)]
      omega
    · cases h
  · rw [heta, if_neg (by decide)] at h
    split at h
    · cases h
      refine ⟨difference_lt _ _, ?_⟩
      rw [heta, hbits, difference_difference (by rw [modulus_eq]; omega)]
      omega
    · cases h

theorem packable_sampleSmall (hp : p.IsLevel) (seed : Bytes) (number : Nat) :
    Packable p.etaBits p.eta (sampleSmall p.eta seed number) := by
  refine ⟨length_collect _ _ _, forall_mem_collect ?_ (fun bytes value hvalue => ?_) _ _ _⟩
  · rw [modulus_eq]
    obtain ⟨heta, hbits⟩ | ⟨heta, hbits⟩ := hp.small <;> rw [heta, hbits] <;> decide
  · obtain ⟨byte, -, hbyte⟩ := List.mem_flatMap.mp hvalue
    obtain hlow | hhigh := List.mem_append.mp hbyte
    · exact smallOfNibble?_packable hp (Option.mem_toList.mp hlow)
    · exact smallOfNibble?_packable hp (Option.mem_toList.mp hhigh)

theorem length_unpackGroups (width groups : Nat) (bytes : Bytes) :
    (unpackGroups width groups bytes).length = 8 * groups := by
  induction groups generalizing bytes with
  | zero => rfl
  | succ groups ih =>
    rw [unpackGroups, List.length_append, length_scatter, ih]
    omega

theorem length_sampleMask (seed : Bytes) (number : Nat) :
    (sampleMask p seed number).length = degree := by
  rw [sampleMask, unpackBelow, List.length_map, unpackValues, length_unpackGroups]
  rfl

theorem length_placeOnes (index signs : Nat) (a : Poly) (bytes : Bytes) :
    (placeOnes index signs a bytes).length = a.length := by
  induction bytes generalizing index signs a with
  | nil => rfl
  | cons byte bytes ih =>
    simp only [placeOnes]
    split
    · rfl
    · split
      · exact ih _ _ _
      · rw [ih, List.length_set, List.length_set]

theorem length_sampleChallenge (digest : Bytes) : (sampleChallenge p digest).length = degree := by
  rw [sampleChallenge, length_placeOnes, Poly.zero, List.length_replicate]

end Dilithium

end HybridTx
