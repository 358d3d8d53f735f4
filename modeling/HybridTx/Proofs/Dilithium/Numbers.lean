import HybridTx.Proofs.Dilithium.Lanes
import HybridTx.Proofs.Dilithium.Scheme
import HybridTx.Proofs.Hash.Numbers

/-! Signing on numbers. The transforms and the samples, put so that a proof can evaluate a whole
signature: polynomials are transformed in lanes, and samples are digits of blocks. -/

namespace HybridTx.Dilithium

open Bytes Keccak

section Readers

variable {width : Nat}

theorem scatter_take (count : Nat) {size : Nat} (h : width * count = 8 * size) (bytes : Bytes) :
    scatter width count (littleToNat (bytes.take size)) =
      scatter width count (littleToNat bytes) := by
  have hpow : 256 ^ size = 2 ^ (width * count) := by rw [h, Nat.pow_mul]
  rw [(littleToNat_take_drop size bytes).1, hpow, scatter_mod]

theorem unpackGroups_eq (groups : Nat) (bytes : Bytes) :
    unpackGroups width groups bytes = scatter width (8 * groups) (littleToNat bytes) := by
  induction groups generalizing bytes with
  | zero => rfl
  | succ groups ih =>
    have hpow : 256 ^ width = 2 ^ (width * 8) := by rw [Nat.mul_comm, Nat.pow_mul]
    have hsplit : scatter width (8 + 8 * groups) (littleToNat bytes) = _ := scatter_add _ _ _
    rw [Nat.add_comm 8, ← Nat.mul_succ] at hsplit
    rw [unpackGroups, ih, scatter_take 8 (Nat.mul_comm width 8), (littleToNat_take_drop _ _).2,
      hpow, hsplit]

/-- The residue in the lower 23 bits of a digit. -/
def residue? (digit : Nat) : Option Nat :=
  if digit % 2 ^ 23 < modulus then some (digit % 2 ^ 23) else none

theorem readResidues_eq (bytes : Bytes) :
    readResidues bytes =
      (scatter 24 (bytes.length / 3) (littleToNat bytes)).filterMap residue? := by
  have hdigits : ∀ (a b c : UInt8) (rest : Bytes),
      scatter 24 ((a :: b :: c :: rest).length / 3) (littleToNat (a :: b :: c :: rest)) =
        (a.toNat + b.toNat <<< 8 + c.toNat <<< 16) ::
          scatter 24 (rest.length / 3) (littleToNat rest) := by
    intro a b c rest
    have ha := a.toNat_lt
    have hb := b.toNat_lt
    have hc := c.toNat_lt
    have hcount : (a :: b :: c :: rest).length / 3 = rest.length / 3 + 1 :=
      Nat.add_div_right rest.length (Nat.succ_pos 2)
    simp only [littleToNat_cons, hcount, scatter, Nat.shiftLeft_eq, Nat.shiftRight_eq_div_pow]
    congr 2 <;> omega
  fun_induction readResidues bytes with
  | case1 a b c rest value hsmall ih =>
    have hread : residue? (a.toNat + b.toNat <<< 8 + c.toNat <<< 16) = some value := if_pos hsmall
    rw [hdigits, List.filterMap_cons_some hread, ih]
  | case2 a b c rest value hlarge ih =>
    have hread : residue? (a.toNat + b.toNat <<< 8 + c.toNat <<< 16) = none := if_neg hlarge
    rw [hdigits, List.filterMap_cons_none hread, ih]
  | case3 bytes hshort =>
    have hcount : bytes.length / 3 = 0 := by
      obtain _ | ⟨a, _ | ⟨b, _ | ⟨c, rest⟩⟩⟩ := bytes
      · exact Nat.zero_div 3
      · exact Nat.div_eq_of_lt (by simp)
      · exact Nat.div_eq_of_lt (by simp)
      · exact (hshort a b c rest rfl).elim
    rw [hcount]
    rfl

theorem readSmall_eq (eta : Nat) (bytes : Bytes) :
    readSmall eta bytes =
      (scatter 4 (2 * bytes.length) (littleToNat bytes)).filterMap (smallOfNibble? eta) := by
  induction bytes with
  | nil => rfl
  | cons byte bytes ih =>
    have hbyte := byte.toNat_lt
    have hlow : (byte.toNat + littleToNat bytes * 256) % 2 ^ 4 = byte.toNat % 16 := by omega
    have hhigh : (byte.toNat + littleToNat bytes * 256) / 2 ^ 4 % 2 ^ 4 = byte.toNat / 16 := by
      omega
    have hrest : (byte.toNat + littleToNat bytes * 256) / 2 ^ 4 / 2 ^ 4 = littleToNat bytes := by
      omega
    have hpair : (smallOfNibble? eta (byte.toNat % 16)).toList ++
        (smallOfNibble? eta (byte.toNat / 16)).toList =
          [byte.toNat % 16, byte.toNat / 16].filterMap (smallOfNibble? eta) := by
      rw [List.filterMap_cons, List.filterMap_cons]
      cases smallOfNibble? eta (byte.toNat % 16) <;>
        cases smallOfNibble? eta (byte.toNat / 16) <;> rfl
    rw [readSmall, List.flatMap_cons, ← readSmall, ih, hpair, ← List.filterMap_append,
      List.length_cons, Nat.mul_succ, littleToNat_cons, scatter, scatter,
      Nat.shiftRight_eq_div_pow, Nat.shiftRight_eq_div_pow, hlow, hhigh, hrest]
    rfl

end Readers

section Collect

variable {width count : Nat} {read? : Nat → Option Nat}

/-- The values in the first `count` digits of each of `blocks` blocks, and zeros. -/
noncomputable def streamNumbers (width count : Nat) (read? : Nat → Option Nat) :
    (blocks : Nat) → State → List Nat
  | 0, _ => List.replicate degree 0
  | blocks + 1, state =>
    pick width read? count state.number
      (streamNumbers width count read? blocks (permuteNumbers state))

theorem collect_eq {sponge : Sponge} {read : Bytes → List Nat}
    (hread : ∀ state, read (sponge.outputBlock state) =
      (scatter width count state.number).filterMap read?)
    {wanted : Nat} (hwanted : wanted ≤ degree) (blocks : Nat) (state : State) :
    collect sponge read blocks wanted state =
      Quick.take wanted (streamNumbers width count read? blocks state) := by
  induction blocks generalizing wanted state with
  | zero => rw [collect, streamNumbers, ← Quick.take_eq, List.take_replicate, min_eq_left hwanted]
  | succ blocks ih =>
    rw [collect, hread, streamNumbers, pick_eq, ← Quick.take_eq]
    split
    · next hfull => rw [List.take_append_of_le_length hfull]
    · next hshort =>
      rw [ih ((Nat.sub_le _ _).trans hwanted), ← Quick.take_eq, State.permute_eq, List.take_append,
        List.take_of_length_le (Nat.le_of_not_le hshort)]

end Collect

/-- A polynomial from the digits of a sponge's blocks. -/
noncomputable def drawNumbers (sponge : Sponge) (width count : Nat) (read? : Nat → Option Nat)
    (seed : Bytes) (number : Nat) : Poly :=
  Quick.take degree (streamNumbers width count read? streamBlocks
    (sponge.absorbNumbers ((seedWith seed number).length / sponge.rate) .zero
      (seedWith seed number)))

noncomputable def uniformNumbers : Bytes → Nat → Poly := drawNumbers shake128Sponge 24 56 residue?

noncomputable def smallNumbers (eta : Nat) : Bytes → Nat → Poly :=
  drawNumbers shake256Sponge 4 272 (smallOfNibble? eta)

/-- A mask, by way of digits. -/
noncomputable def maskNumbers (p : Parameters) (seed : Bytes) (number : Nat) : Poly :=
  pick p.maskBits (fun value => some (difference p.mask value)) degree
    (shake256Sponge.outputNumber (Parameters.packedSize p.maskBits) (seedWith seed number)) []

theorem draw_eq {sponge : Sponge} (hlanes : sponge.InLanes) {width count : Nat}
    (hcount : width * count = 8 * sponge.rate) {read? : Nat → Option Nat}
    {read : Bytes → List Nat} (hread : ∀ block : Bytes, block.length = sponge.rate →
      read block = (scatter width count (littleToNat block)).filterMap read?)
    (seed : Bytes) (number : Nat) :
    collect sponge read streamBlocks degree (sponge.absorb (seedWith seed number)) =
      drawNumbers sponge width count read? seed number := by
  rw [drawNumbers, Sponge.absorb_eq hlanes]
  refine collect_eq (fun state => ?_) le_rfl _ _
  rw [hread _ (Sponge.length_outputBlock hlanes.2 state), Sponge.outputBlock,
    scatter_take count hcount, littleToNat_toBytes]

theorem sampleUniform_eq : sampleUniform = uniformNumbers := by
  funext seed number
  have hread : ∀ block : Bytes, block.length = 168 →
      readResidues block = (scatter 24 56 (littleToNat block)).filterMap residue? := by
    intro block hblock
    rw [readResidues_eq, hblock]
  exact draw_eq (by decide) (by decide) hread seed number

theorem sampleSmall_eq (eta : Nat) : sampleSmall eta = smallNumbers eta := by
  funext seed number
  have hread : ∀ block : Bytes, block.length = 136 → readSmall eta block =
      (scatter 4 272 (littleToNat block)).filterMap (smallOfNibble? eta) := by
    intro block hblock
    rw [readSmall_eq, hblock]
  exact draw_eq (by decide) (by decide) hread seed number

theorem sampleMask_eq (p : Parameters) : sampleMask p = maskNumbers p := by
  funext seed number
  have hsize : 256 ^ Parameters.packedSize p.maskBits = 2 ^ (p.maskBits * degree) := by
    have hbits : 8 * Parameters.packedSize p.maskBits = p.maskBits * degree := by
      rw [Parameters.packedSize, ← Nat.mul_assoc, Nat.mul_comm]
      rfl
    rw [← hbits, Nat.pow_mul]
  rw [sampleMask, unpackBelow, unpackValues, unpackGroups_eq, Sponge.littleToNat_output (by decide),
    hsize, maskNumbers, pick_some]
  exact congrArg _ (scatter_mod degree _)

section Places

theorem forall_mem_set {a : Poly} {bound value : Nat} (ha : ∀ x ∈ a, x < bound)
    (hvalue : value < bound) (index : Nat) : ∀ x ∈ a.set index value, x < bound := by
  intro x hx
  obtain hx | rfl := List.mem_or_eq_of_mem_set hx
  · exact ha x hx
  · exact hvalue

/-- `placeOnes` with the coefficients in one number. -/
def placeNumbers (index signs number : Nat) : Bytes → Nat
  | [] => number
  | byte :: rest =>
    if index ≥ degree then number
    else if byte.toNat > index then placeNumbers index signs number rest
    else
      placeNumbers (Nat.add index 1) (Nat.div signs 2)
        (putDigit 23 byte.toNat (if signs % 2 = 1 then modulus - 1 else 1)
          (putDigit 23 index (digit 23 byte.toNat number) number)) rest

theorem placeOnes_spec {a : Poly} (hlength : a.length = degree) (ha : ∀ x ∈ a, x < 2 ^ 23)
    (index signs : Nat) (bytes : Bytes) :
    (∀ x ∈ placeOnes index signs a bytes, x < 2 ^ 23) ∧
      gather 23 (placeOnes index signs a bytes) = placeNumbers index signs (gather 23 a) bytes := by
  induction bytes generalizing index signs a with
  | nil => exact ⟨ha, rfl⟩
  | cons byte bytes ih =>
    simp only [placeOnes, placeNumbers]
    split
    · exact ⟨ha, rfl⟩
    · next hindex =>
      split
      · exact ih hlength ha index signs
      · next hplace =>
        have hfits : byte.toNat < a.length ∧ index < a.length := by omega
        have hone : (if signs % 2 = 1 then modulus - 1 else 1) < 2 ^ 23 := by
          split <;> decide
        have hdigit : a.getD byte.toNat 0 < 2 ^ 23 := by
          rw [← digit_gather ha, digit_eq]
          exact Nat.mod_lt _ (Nat.two_pow_pos 23)
        have hmoved := forall_mem_set ha hdigit index
        rw [digit_gather ha, putDigit_gather ha hfits.2, putDigit_gather hmoved
          (by rw [List.length_set]; exact hfits.1)]
        exact ih (by rw [List.length_set, List.length_set, hlength])
          (forall_mem_set hmoved hone _) _ _

theorem placeOnes_zero (index signs : Nat) (bytes : Bytes) :
    placeOnes index signs Poly.zero bytes =
      pick 23 some degree (placeNumbers index signs 0 bytes) [] := by
  have hlength : Poly.zero.length = degree := List.length_replicate
  have hsmall : ∀ x ∈ Poly.zero, x < 2 ^ 23 := by
    intro x hx
    rw [List.eq_of_mem_replicate hx]
    exact Nat.two_pow_pos 23
  have hzero : gather 23 Poly.zero = 0 := by decide +kernel
  obtain ⟨hplaced, hnumber⟩ := placeOnes_spec hlength hsmall index signs bytes
  have hread := scatter_gather hplaced
  rw [length_placeOnes, hlength, hnumber, hzero] at hread
  rw [pick_eq, List.append_nil, List.filterMap_some, hread]

/-- A challenge, by way of digits. -/
noncomputable def challengeNumbers (p : Parameters) (digest : Bytes) : Poly :=
  let stream := shake256Sponge.outputNumbers (16 * shake256Sponge.rate) (digest.take 32)
  pick 23 some degree
    (placeNumbers (degree - p.weight) (littleToNat (stream.take 8)) 0 (stream.drop 8)) []

theorem sampleChallenge_eq (p : Parameters) : sampleChallenge p = challengeNumbers p := by
  funext digest
  rw [sampleChallenge, challengeNumbers, Sponge.output_eq (by decide), placeOnes_zero]

end Places

namespace Poly

noncomputable def addNumbers (a b : Poly) : Poly :=
  Quick.zipWith (fun x y => Nat.mod (Nat.add x y) modulus) a b

noncomputable def subNumbers (a b : Poly) : Poly := Quick.zipWith
  (fun x y => Nat.mod (Nat.sub (Nat.add x modulus) (Nat.mod y modulus)) modulus) a b

noncomputable def pointwiseNumbers (a b : Poly) : Poly :=
  Quick.zipWith (fun x y => Nat.mod (Nat.mul x y) modulus) a b

theorem add_eq : Poly.add = addNumbers := by
  funext a b
  rw [Poly.add, Quick.zipWith_eq]
  rfl

theorem sub_eq : Poly.sub = subNumbers := by
  funext a b
  rw [Poly.sub, Quick.zipWith_eq]
  rfl

theorem pointwise_eq : Poly.pointwise = pointwiseNumbers := by
  funext a b
  rw [Poly.pointwise, Quick.zipWith_eq]
  rfl

end Poly

/-- The search for a mask ends. For this key and message it does so at once. -/
theorem searchMasks_dom :
    (searchMasks level2 (secretKey level2 (List.replicate 32 0)) (List.replicate 32 3)).Dom := by
  refine Nat.rfindOpt_dom.mpr ⟨0, Option.isSome_iff_exists.mp ?_⟩
  rw [signWithMask?, read_secretKey _ (.inl rfl)]
  simp -zeta (disch := decide) only [attempt, secretParts, publicKey, messageDigest,
    challengeDigest, firstSecret, secondSecret, droppedVector, highVector, splitVector,
    publicVector, matrixSeed, secretSeed, expandMatrix, dot, sampleChallenge_eq, sampleMask_eq,
    sampleUniform_eq, sampleSmall_eq, Sponge.output_eq, Poly.transform_eq, Poly.untransform_eq,
    Poly.add_eq, Poly.sub_eq, Poly.pointwise_eq, Quick.map_eq]
  decide +kernel

end HybridTx.Dilithium
