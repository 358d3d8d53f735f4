import HybridTx.Proofs.Dilithium.Sampling
import HybridTx.Proofs.Dilithium.Search

/-! Signatures hold. Whatever a key that was made from a seed signs, verifies with the public half:
what the signer packs is read back, the response leads back to the commitment of the mask but for a
small difference, and the hints take the high parts back. -/

namespace HybridTx.Dilithium

open Keccak HybridTx.Dilithium.Poly

variable {p : Parameters}

/-- The bits of a packed response, and the bound of the masks. -/
theorem Parameters.IsLevel.masks (hp : p.IsLevel) :
    p.maskBits = 18 ∧ p.mask = 131072 ∨ p.maskBits = 20 ∧ p.mask = 524288 := by
  obtain rfl | rfl | rfl := hp
  · exact .inl ⟨rfl, rfl⟩
  · exact .inr ⟨rfl, rfl⟩
  · exact .inr ⟨rfl, rfl⟩

theorem Parameters.IsLevel.maxHints_lt (hp : p.IsLevel) : p.maxHints < 256 := by
  obtain rfl | rfl | rfl := hp <;> decide

theorem Parameters.IsLevel.signatureSize_pos (hp : p.IsLevel) : 0 < p.signatureSize := by
  obtain rfl | rfl | rfl := hp <;> decide

theorem magnitude_lt_of_within {bound : Nat} {a : Poly} (h : within bound a = true) {x : Nat}
    (hx : x ∈ a) : magnitude x < bound := by simpa using List.all_eq_true.mp h x hx

/-- A response that is not refused can be packed. -/
theorem packable_of_within (hp : p.IsLevel) {a : Poly} (hlength : a.length = degree)
    (hreduced : a.Reduced) (h : within (p.mask - p.slack) a = true) :
    Packable p.maskBits p.mask a := by
  refine ⟨hlength, fun x hx => ⟨hreduced x hx, ?_⟩⟩
  have hsmall := magnitude_lt_of_within h hx
  have hx := hreduced x hx
  rw [difference]
  obtain hup | hdown := lt_or_ge (2 * x) modulus
  · rw [magnitude_of_lt hup] at hsmall
    rw [modulus_eq] at *
    obtain ⟨hbits, hmask⟩ | ⟨hbits, hmask⟩ := hp.masks <;>
      simp only [hbits, hmask] at hsmall ⊢ <;> omega
  · rw [magnitude_of_le hdown] at hsmall
    rw [modulus_eq] at *
    obtain ⟨hbits, hmask⟩ | ⟨hbits, hmask⟩ := hp.masks <;>
      simp only [hbits, hmask] at hsmall ⊢ <;> omega

section Keys

variable (p) (seed : Bytes)

/-- The seed of the matrix. -/
def matrixSeed : Bytes := (shake256Sponge.output 128 seed).take 32

/-- The seed of the secret vectors. -/
def secretSeed : Bytes := ((shake256Sponge.output 128 seed).drop 32).take 64

/-- The first secret vector. -/
def firstSecret : List Poly := (List.range p.columns).map (sampleSmall p.eta (secretSeed seed))

/-- The second secret vector. -/
def secondSecret : List Poly :=
  (List.range p.rows).map fun i => sampleSmall p.eta (secretSeed seed) (p.columns + i)

/-- The public vector. -/
def publicVector : List Poly :=
  List.zipWith (fun row s => (dot row ((firstSecret p seed).map transform)).untransform.add s)
    (expandMatrix p (matrixSeed seed)) (secondSecret p seed)

/-- The public vector with each coefficient taken apart. -/
def splitVector : List (List (Nat × Nat)) := (publicVector p seed).map (·.map splitDropped)

/-- What the public key holds of the public vector. -/
def highVector : List Poly := (splitVector p seed).map (·.map Prod.fst)

/-- What the secret key holds of the public vector. -/
def droppedVector : List Poly := (splitVector p seed).map (·.map Prod.snd)

/-- The public key for a seed. -/
def publicKey : Bytes := packPublic (matrixSeed seed) (highVector p seed)

/-- The secret key for a seed. -/
def secretKey : Bytes :=
  matrixSeed seed ++ (shake256Sponge.output 128 seed).drop 96
    ++ shake256Sponge.output 64 (publicKey p seed)
    ++ (firstSecret p seed ++ secondSecret p seed).flatMap (packBelow p.etaBits p.eta)
    ++ (droppedVector p seed).flatMap (packBelow droppedBits (2 ^ (droppedBits - 1)))

theorem keypair_eq : keypair p seed = (publicKey p seed, secretKey p seed) := by
  rw [secretKey, droppedVector, List.flatMap_map]
  simp only [keypair, publicKey, highVector, splitVector, publicVector, firstSecret, secondSecret,
    matrixSeed, secretSeed]

variable {p}

theorem length_matrixSeed : (matrixSeed seed).length = 32 := by
  rw [matrixSeed, List.length_take, length_shake256]
  rfl

theorem length_firstSecret : (firstSecret p seed).length = p.columns := by simp [firstSecret]

theorem length_secondSecret : (secondSecret p seed).length = p.rows := by simp [secondSecret]

theorem length_expandMatrix : (expandMatrix p seed).length = p.rows := by simp [expandMatrix]

theorem length_publicVector : (publicVector p seed).length = p.rows := by
  simp [publicVector, length_expandMatrix, length_secondSecret]

theorem packable_secrets (hp : p.IsLevel) :
    ∀ a ∈ firstSecret p seed ++ secondSecret p seed, Packable p.etaBits p.eta a := by
  intro a ha
  obtain ha | ha := List.mem_append.mp ha
  · obtain ⟨i, -, rfl⟩ := List.mem_map.mp ha
    exact packable_sampleSmall hp _ _
  · obtain ⟨i, -, rfl⟩ := List.mem_map.mp ha
    exact packable_sampleSmall hp _ _

theorem allFull_firstSecret (hp : p.IsLevel) : AllFull (firstSecret p seed) := fun a ha =>
  (packable_secrets seed hp a (List.mem_append_left _ ha)).1

theorem allFull_secondSecret (hp : p.IsLevel) : AllFull (secondSecret p seed) := fun a ha =>
  (packable_secrets seed hp a (List.mem_append_right _ ha)).1

/-- The public vector has all its coefficients, and they are reduced. -/
theorem publicVector_spec (hp : p.IsLevel) :
    ∀ a ∈ publicVector p seed, a.length = degree ∧ a.Reduced := by
  refine forall_mem_zipWith fun row hrow s hs => ⟨?_, reduced_add⟩
  have hdot := length_dot (allFull_expandMatrix _ row hrow)
    (allFull_firstSecret seed hp).map_transform
  rw [length_add, length_untransform hdot, allFull_secondSecret seed hp s hs, min_self]

theorem mem_splitVector (hp : p.IsLevel) {a : List (Nat × Nat)} (ha : a ∈ splitVector p seed) :
    a.length = degree ∧ ∀ x ∈ a, ∃ y < modulus, splitDropped y = x := by
  obtain ⟨t, ht, rfl⟩ := List.mem_map.mp ha
  obtain ⟨hlength, hreduced⟩ := publicVector_spec seed hp t ht
  refine ⟨by rw [List.length_map, hlength], fun x hx => ?_⟩
  obtain ⟨y, hy, rfl⟩ := List.mem_map.mp hx
  exact ⟨y, hreduced y hy, rfl⟩

theorem packable_droppedVector (hp : p.IsLevel) :
    ∀ a ∈ droppedVector p seed, Packable droppedBits (2 ^ (droppedBits - 1)) a := by
  intro a ha
  obtain ⟨t, ht, rfl⟩ := List.mem_map.mp ha
  obtain ⟨hlength, hsplit⟩ := mem_splitVector seed hp ht
  refine ⟨by rw [List.length_map, hlength], fun x hx => ?_⟩
  obtain ⟨y, hy, rfl⟩ := List.mem_map.mp hx
  obtain ⟨z, hz, rfl⟩ := hsplit y hy
  obtain ⟨-, hlt, hpacked, -⟩ := splitDropped_spec hz
  exact ⟨hlt, hpacked⟩

theorem allFull_droppedVector (hp : p.IsLevel) : AllFull (droppedVector p seed) := fun a ha =>
  (packable_droppedVector seed hp a ha).1

/-- The high vector has all its coefficients, and they fit the public key. -/
theorem highVector_spec (hp : p.IsLevel) :
    ∀ a ∈ highVector p seed, a.length = degree ∧ ∀ x ∈ a, x < 2 ^ (23 - droppedBits) := by
  intro a ha
  obtain ⟨t, ht, rfl⟩ := List.mem_map.mp ha
  obtain ⟨hlength, hsplit⟩ := mem_splitVector seed hp ht
  refine ⟨by rw [List.length_map, hlength], fun x hx => ?_⟩
  obtain ⟨y, hy, rfl⟩ := List.mem_map.mp hx
  obtain ⟨z, hz, rfl⟩ := hsplit y hy
  exact (splitDropped_spec hz).1

theorem length_highVector : (highVector p seed).length = p.rows := by
  simp [highVector, splitVector, length_publicVector]

theorem length_droppedVector : (droppedVector p seed).length = p.rows := by
  simp [droppedVector, splitVector, length_publicVector]

theorem length_publicKey : (publicKey p seed).length = p.publicKeySize := by
  rw [publicKey, packPublic, List.length_append, length_matrixSeed,
    length_flatMap_pack fun a _ => length_packValues, length_highVector, Parameters.publicKeySize]

/-- What a verifier reads in the public key. -/
theorem read_publicKey (hp : p.IsLevel) :
    (publicKey p seed).take 32 = matrixSeed seed ∧
      unpackVector (23 - droppedBits) p.rows (unpackValues (23 - droppedBits))
        ((publicKey p seed).drop 32) = highVector p seed := by
  refine ⟨List.take_left' (length_matrixSeed seed), ?_⟩
  have hpacked : ∀ a ∈ highVector p seed,
      (packValues (23 - droppedBits) a).length = Parameters.packedSize (23 - droppedBits) ∧
        unpackValues (23 - droppedBits) (packValues (23 - droppedBits) a) = a := by
    intro a ha
    obtain ⟨hlength, hsmall⟩ := highVector_spec seed hp a ha
    exact ⟨length_packValues, unpackValues_packValues hlength hsmall⟩
  have hread := unpackVector_flatMap _ _ _ (length_highVector seed) hpacked []
  rw [List.append_nil] at hread
  rw [publicKey, packPublic, List.drop_left' (length_matrixSeed seed), hread]

theorem length_maskSeed : ((shake256Sponge.output 128 seed).drop 96).length = 32 := by
  rw [List.length_drop, length_shake256]

theorem length_packedSecrets :
    ((firstSecret p seed ++ secondSecret p seed).flatMap (packBelow p.etaBits p.eta)).length =
      (p.columns + p.rows) * Parameters.packedSize p.etaBits := by
  rw [length_flatMap_pack fun a _ => length_packBelow, List.length_append, length_firstSecret,
    length_secondSecret]

theorem length_secretKey : (secretKey p seed).length = p.secretKeySize := by
  rw [secretKey, List.length_append, List.length_append, List.length_append, List.length_append,
    length_matrixSeed, length_maskSeed, length_shake256, length_packedSecrets,
    length_flatMap_pack fun a _ => length_packBelow, length_droppedVector,
    Parameters.secretKeySize]

/-- The places of the parts of a secret key. -/
theorem cut_secretKey {a b c d e : Bytes} {size : Nat} (ha : a.length = 32) (hb : b.length = 32)
    (hc : c.length = 64) (hd : d.length = size) :
    (a ++ b ++ c ++ d ++ e).take 32 = a ∧ ((a ++ b ++ c ++ d ++ e).drop 32).take 32 = b ∧
      ((a ++ b ++ c ++ d ++ e).drop 64).take 64 = c ∧ (a ++ b ++ c ++ d ++ e).drop 128 = d ++ e ∧
      (a ++ b ++ c ++ d ++ e).drop (128 + size) = e := by
  have hab : (a ++ b).length = 64 := by rw [List.length_append, ha, hb]
  have habc : (a ++ b ++ c).length = 128 := by rw [List.length_append, hab, hc]
  have habcd : (a ++ b ++ c ++ d).length = 128 + size := by rw [List.length_append, habc, hd]
  refine ⟨?_, ?_, ?_, ?_, List.drop_left' habcd⟩
  · rw [List.append_assoc, List.append_assoc, List.append_assoc, List.take_left' ha]
  · rw [List.append_assoc, List.append_assoc, List.append_assoc, List.drop_left' ha,
      List.take_left' hb]
  · rw [List.append_assoc, List.append_assoc, List.drop_left' hab, List.take_left' hc]
  · rw [List.append_assoc, List.drop_left' habc]

variable (p) in
/-- The secret key for a seed, taken apart. -/
def secretParts : SecretParts where
  matrix := expandMatrix p (matrixSeed seed)
  maskSeed := (shake256Sponge.output 128 seed).drop 96
  publicDigest := shake256Sponge.output 64 (publicKey p seed)
  s1 := (firstSecret p seed).map transform
  s2 := (secondSecret p seed).map transform
  t0 := (droppedVector p seed).map transform

@[simp] theorem secretParts_matrix :
    (secretParts p seed).matrix = expandMatrix p (matrixSeed seed) := rfl

@[simp] theorem secretParts_publicDigest :
    (secretParts p seed).publicDigest = shake256Sponge.output 64 (publicKey p seed) := rfl

@[simp] theorem secretParts_s1 :
    (secretParts p seed).s1 = (firstSecret p seed).map transform := rfl

@[simp] theorem secretParts_s2 :
    (secretParts p seed).s2 = (secondSecret p seed).map transform := rfl

@[simp] theorem secretParts_t0 :
    (secretParts p seed).t0 = (droppedVector p seed).map transform := rfl

/-- What a signer reads in the secret key. -/
theorem read_secretKey (hp : p.IsLevel) :
    SecretParts.ofBytes p (secretKey p seed) = secretParts p seed := by
  obtain ⟨hmatrix, hmask, hdigest, hsecrets, hdropped⟩ := cut_secretKey
    (e := (droppedVector p seed).flatMap (packBelow droppedBits (2 ^ (droppedBits - 1))))
    (length_matrixSeed seed) (length_maskSeed seed) (length_shake256 64 (publicKey p seed))
    (length_packedSecrets (p := p) seed)
  have hcount : (firstSecret p seed ++ secondSecret p seed).length = p.columns + p.rows := by
    rw [List.length_append, length_firstSecret, length_secondSecret]
  have hsmall := unpackVector_flatMap _ _ _ hcount fun a ha =>
    ⟨length_packBelow, unpackBelow_packBelow (packable_secrets seed hp a ha)⟩
  have hlow := unpackVector_flatMap _ _ _ (length_droppedVector seed)
    (fun a ha => ⟨length_packBelow, unpackBelow_packBelow (packable_droppedVector seed hp a ha)⟩) []
  rw [List.append_nil] at hlow
  rw [secretKey, SecretParts.ofBytes]
  simp only [hmatrix, hmask, hdigest, hsecrets, hdropped, hsmall, hlow]
  rw [List.take_left' (length_firstSecret seed), List.drop_left' (length_firstSecret seed),
    secretParts]

end Keys

/-- The hints of a row take its high parts back from a commitment that is a little off. -/
theorem applyHints_row (hp : p.IsLevel) {w a b w' : Poly} (hw : w.length = degree)
    (hreduced : w.Reduced) (ha : a.length = degree) (hb : b.length = degree) (hb' : b.Reduced)
    (hw' : w'.length = degree) (hreduced' : w'.Reduced)
    (hcoeff : ∀ i, w'.coeff i = w.coeff i - a.coeff i + b.coeff i)
    (hlow : within (p.step - p.slack) (sub ((w.map (splitStep p)).map Prod.snd) a) = true)
    (hstep : within p.step b = true) :
    let high := (w.map (splitStep p)).map Prod.fst
    let low := (w.map (splitStep p)).map Prod.snd
    List.zipWith (applyHint p) (List.zipWith (needsHint p) (add (sub low a) b) high) w' = high := by
  intro high low
  have hlowLength : low.length = degree := by simp [low, hw]
  have hrest : (sub low a).length = degree := by simp [hlowLength, ha]
  have hoffset : (add (sub low a) b).length = degree := by simp [hrest, hb]
  apply List.ext_getElem (by simp [high, low, hw, ha, hb, hw'])
  intro i hi hi'
  have hiw : i < w.length := by simpa [high] using hi'
  rw [hw] at hiw
  rw [List.getElem_zipWith, List.getElem_zipWith]
  have hiw' : i < List.length w := hw ▸ hiw
  obtain ⟨hhigh, -, hparts⟩ := splitStep_spec hp (hreduced _ (List.getElem_mem hiw'))
  have hhighAt : high[i] = (splitStep p w[i]).1 := by simp [high]
  have hlowAt : coeff low i = (splitStep p w[i]).2 := by
    rw [coeff_of_lt (hlowLength ▸ hiw)]
    simp [low]
  have hsmall : magnitude (add (sub low a) b)[i] < 2 * p.step := by
    have hrestAt : (sub low a)[i] ∈ sub low a := List.getElem_mem _
    have hbAt : b[i] ∈ b := List.getElem_mem _
    have hsum := magnitude_add_le (reduced_sub _ hrestAt) (hb' _ hbAt)
    have hfirst := magnitude_lt_of_within hlow hrestAt
    have hsecond := magnitude_lt_of_within hstep hbAt
    have hadd : (add (sub low a) b)[i] = ((sub low a)[i] + b[i]) % modulus := by
      simp [add]
    rw [hadd]
    omega
  have hvalue : w'[i] = (high[i] * (2 * p.step) + (add (sub low a) b)[i]) % modulus := by
    apply eq_of_cast_eq (hreduced' _ (List.getElem_mem _)) (Nat.mod_lt _ (by decide))
    have hoffsetAt : ((add (sub low a) b)[i] : ZMod modulus) =
        coeff low i - a.coeff i + b.coeff i := by
      rw [← coeff_of_lt, coeff_add (hrest.trans hb.symm), coeff_sub (hlowLength.trans ha.symm)]
    rw [← coeff_of_lt, hcoeff, ZMod.natCast_mod, Nat.cast_add, hoffsetAt, hlowAt, hhighAt,
      coeff_of_lt hiw', ← hparts]
    push_cast
    ring
  rw [hvalue, applyHint_needsHint hp (hhighAt ▸ hhigh) (reduced_add _ (List.getElem_mem _)) hsmall]

section Attempt

variable (p) (key : SecretParts) (digest : Bytes) (y : List Poly)

/-- The commitment of a mask, taken apart. -/
def splitCommitment : List (List (Nat × Nat)) :=
  key.matrix.map fun row => (dot row (y.map transform)).untransform.map (splitStep p)

/-- The challenge digest for a mask. -/
def maskChallenge : Bytes :=
  challengeDigest p digest ((splitCommitment p key y).map (·.map Prod.fst))

/-- The challenge for a mask times a polynomial. -/
def timesChallenge (a : Poly) : Poly :=
  ((sampleChallenge p (maskChallenge p key digest y)).transform.pointwise a).untransform

/-- The response for a mask. -/
def response : List Poly :=
  List.zipWith (fun mask s => mask.add (timesChallenge p key digest y s)) y key.s1

/-- What is left of the low parts of the commitment. -/
def lowRest : List Poly :=
  List.zipWith (fun a s => Poly.sub a (timesChallenge p key digest y s))
    ((splitCommitment p key y).map (·.map Prod.snd)) key.s2

/-- The hints for a mask. -/
def maskHints : List (List Bool) :=
  List.zipWith (List.zipWith (needsHint p))
    (List.zipWith Poly.add (lowRest p key digest y) (key.t0.map (timesChallenge p key digest y)))
    ((splitCommitment p key y).map (·.map Prod.fst))

variable {p key digest}

/-- A signature is made of a mask, and of what none of the checks refused. -/
theorem attempt_eq_some {maskSeed signature : Bytes} {number : Nat}
    (h : attempt p key digest maskSeed number = some signature) :
    ∃ y, AllFull y ∧ y.length = p.columns ∧
      (response p key digest y).all (within (p.mask - p.slack)) = true ∧
      (lowRest p key digest y).all (within (p.step - p.slack)) = true ∧
      (key.t0.map (timesChallenge p key digest y)).all (within p.step) = true ∧
      (maskHints p key digest y).flatten.count true ≤ p.maxHints ∧
      signature = maskChallenge p key digest y ++
        (response p key digest y).flatMap (packBelow p.maskBits p.mask) ++
        packHints p (maskHints p key digest y) := by
  let y := (List.range p.columns).map fun i => sampleMask p maskSeed (p.columns * number + i)
  have hy : AllFull y := by
    intro a ha
    obtain ⟨i, -, rfl⟩ := List.mem_map.mp ha
    exact length_sampleMask _ _
  have hattempt : attempt p key digest maskSeed number =
      if !(response p key digest y).all (within (p.mask - p.slack)) then none
      else if !(lowRest p key digest y).all (within (p.step - p.slack)) then none
      else if !(key.t0.map (timesChallenge p key digest y)).all (within p.step) then none
      else if (maskHints p key digest y).flatten.count true > p.maxHints then none
      else some (maskChallenge p key digest y ++
        (response p key digest y).flatMap (packBelow p.maskBits p.mask) ++
        packHints p (maskHints p key digest y)) := rfl
  rw [hattempt] at h
  simp only [Option.ite_none_left_eq_some, Bool.not_eq_true', Bool.not_eq_false, not_lt,
    Option.some.injEq] at h
  obtain ⟨hz, hr, hct0, hcount, hsignature⟩ := h
  exact ⟨y, hy, by simp [y], hz, hr, hct0, hcount, hsignature.symm⟩

end Attempt

/-- The parts of a residue, one with its factor, add up to it. -/
theorem coeff_splitDropped {t : Poly} (ht : t.Reduced) (i : Nat) :
    (scale (2 ^ droppedBits) ((t.map splitDropped).map Prod.fst)).coeff i +
      coeff ((t.map splitDropped).map Prod.snd) i = t.coeff i := by
  rw [coeff_scale]
  by_cases hi : i < List.length t
  · have hparts := (splitDropped_spec (ht _ (List.getElem_mem hi))).2.2.2
    have hlength : i < ((t.map splitDropped).map Prod.fst).length ∧
        i < ((t.map splitDropped).map Prod.snd).length := by
      simpa only [List.length_map, and_self] using hi
    rw [coeff_of_lt hlength.1, coeff_of_lt hlength.2, coeff_of_lt hi, ← hparts]
    simp only [List.getElem_map, Nat.cast_pow, Nat.cast_ofNat]
  · have hlength : ((t.map splitDropped).map Prod.fst).length ≤ i ∧
        ((t.map splitDropped).map Prod.snd).length ≤ i := by
      simpa only [List.length_map, and_self, not_lt] using hi
    rw [coeff_of_le hlength.1, coeff_of_le hlength.2, coeff_of_le (not_lt.mp hi), zero_mul,
      zero_add]

section Verification

variable (seed : Bytes) {digest : Bytes} {y : List Poly}

/-- A row of the public vector is what the two keys hold of it. -/
theorem coeff_publicRow (hp : p.IsLevel) {k : Nat} (hhigh : k < (highVector p seed).length)
    (hdropped : k < (droppedVector p seed).length)
    (hmatrix : k < (expandMatrix p (matrixSeed seed)).length)
    (hsecret : k < (secondSecret p seed).length) (i : Nat) :
    (scale (2 ^ droppedBits) (highVector p seed)[k]).coeff i +
        coeff (droppedVector p seed)[k] i =
      (dot (expandMatrix p (matrixSeed seed))[k]
        ((firstSecret p seed).map transform)).untransform.coeff i +
        coeff (secondSecret p seed)[k] i := by
  have hpublic : k < (publicVector p seed).length := by
    rw [length_publicVector]
    rwa [length_highVector] at hhigh
  obtain ⟨-, hreduced⟩ := publicVector_spec seed hp _ (List.getElem_mem hpublic)
  have hdot := length_dot (allFull_expandMatrix _ _ (List.getElem_mem hmatrix))
    (allFull_firstSecret seed hp).map_transform
  have hsum := (length_untransform hdot).trans
    (allFull_secondSecret seed hp _ (List.getElem_mem hsecret)).symm
  simp only [highVector, droppedVector, splitVector, List.getElem_map]
  rw [coeff_splitDropped hreduced]
  simp only [publicVector, List.getElem_zipWith]
  rw [coeff_add hsum]

theorem length_timesChallenge {key : SecretParts} {a : Poly} (ha : a.length = degree) :
    (timesChallenge p key digest y a).length = degree :=
  length_untransform (by
    rw [length_pointwise, length_transform (length_sampleChallenge _), ha, min_self])

theorem allFull_response (hp : p.IsLevel) (hy : AllFull y) :
    AllFull (response p (secretParts p seed) digest y) :=
  forall_mem_zipWith fun mask hmask s hs => by
    rw [length_add, hy mask hmask, length_timesChallenge
      ((allFull_firstSecret seed hp).map_transform s hs), min_self]

variable (p digest y) in
/-- The commitment that the response leads a verifier back to. -/
def givenBack : List Poly :=
  List.zipWith (fun row t =>
    ((dot row ((response p (secretParts p seed) digest y).map transform)).sub
      ((sampleChallenge p (maskChallenge p (secretParts p seed) digest y)).transform.pointwise
        (t.scale (2 ^ droppedBits)).transform)).untransform)
    (expandMatrix p (matrixSeed seed)) (highVector p seed)

theorem length_givenBack : (givenBack p seed digest y).length = p.rows := by
  rw [givenBack, List.length_zipWith, length_expandMatrix, length_highVector, min_self]

/-- A row of the commitment that is given back is that of the mask, but for the challenge times the
second secret and times what the public key does not hold. -/
theorem givenBack_spec (hp : p.IsLevel) (hy : AllFull y) (hcolumns : y.length = p.columns) {k : Nat}
    (hback : k < (givenBack p seed digest y).length)
    (hmatrix : k < (expandMatrix p (matrixSeed seed)).length)
    (hsecret : k < (secondSecret p seed).length) (hdropped : k < (droppedVector p seed).length) :
    (givenBack p seed digest y)[k].length = degree ∧ (givenBack p seed digest y)[k].Reduced ∧
      ∀ i, coeff (givenBack p seed digest y)[k] i =
        (dot (expandMatrix p (matrixSeed seed))[k] (y.map transform)).untransform.coeff i -
          (timesChallenge p (secretParts p seed) digest y
            (secondSecret p seed)[k].transform).coeff i +
          (timesChallenge p (secretParts p seed) digest y
            (droppedVector p seed)[k].transform).coeff i := by
  have hhigh : k < (highVector p seed).length := by
    rwa [length_highVector, ← length_droppedVector (p := p) seed]
  have hrow : AllFull (expandMatrix p (matrixSeed seed))[k] :=
    allFull_expandMatrix _ _ (List.getElem_mem hmatrix)
  have hc : (sampleChallenge p (maskChallenge p (secretParts p seed) digest y)).transform.length =
      degree := length_transform (length_sampleChallenge _)
  have ht1 : (scale (2 ^ droppedBits) (highVector p seed)[k]).length = degree := by
    rw [length_scale]
    exact (highVector_spec seed hp _ (List.getElem_mem hhigh)).1
  have hresponse : AllFull (response p (secretParts p seed) digest y) :=
    allFull_response seed hp hy
  have hz := length_dot hrow hresponse.map_transform
  have hproduct := length_product hc (length_transform ht1)
  have hcoeff := coeff_commitment hrow hy (allFull_firstSecret seed hp) hc
    (allFull_secondSecret seed hp _ (List.getElem_mem hsecret))
    (allFull_droppedVector seed hp _ (List.getElem_mem hdropped)) ht1
    (by rw [hcolumns, length_firstSecret]) (coeff_publicRow seed hp hhigh hdropped hmatrix hsecret)
  simp only [givenBack, List.getElem_zipWith]
  exact ⟨length_untransform (by rw [length_sub, hz, hproduct, min_self]), reduced_untransform,
    hcoeff⟩

/-- The hints take the high parts of the commitment back. -/
theorem applyHints_maskHints (hp : p.IsLevel) (hy : AllFull y) (hcolumns : y.length = p.columns)
    (hr : (lowRest p (secretParts p seed) digest y).all (within (p.step - p.slack)) = true)
    (hct0 : ((secretParts p seed).t0.map (timesChallenge p (secretParts p seed) digest y)).all
      (within p.step) = true) :
    List.zipWith (List.zipWith (applyHint p)) (maskHints p (secretParts p seed) digest y)
      (givenBack p seed digest y) =
      (splitCommitment p (secretParts p seed) y).map (·.map Prod.fst) := by
  have hrows : (expandMatrix p (matrixSeed seed)).length = p.rows := length_expandMatrix _
  apply List.ext_getElem
  · simp [maskHints, lowRest, splitCommitment, hrows, length_givenBack, length_droppedVector,
      length_secondSecret]
  intro k hk hk'
  have hrow : k < p.rows := by simpa [splitCommitment, hrows] using hk'
  have hmatrix : k < (expandMatrix p (matrixSeed seed)).length := hrows ▸ hrow
  have hdropped : k < (droppedVector p seed).length := length_droppedVector (p := p) seed ▸ hrow
  have hsecret : k < (secondSecret p seed).length := length_secondSecret (p := p) seed ▸ hrow
  have hback : k < (givenBack p seed digest y).length := by rwa [length_givenBack]
  obtain ⟨hlength, hreduced, hcoeff⟩ :=
    givenBack_spec seed hp hy hcolumns hback hmatrix hsecret hdropped
  have hs2 := allFull_secondSecret seed hp _ (List.getElem_mem hsecret)
  have ht0 := allFull_droppedVector seed hp _ (List.getElem_mem hdropped)
  have hw := length_dot (allFull_expandMatrix _ _ (List.getElem_mem hmatrix)) hy.map_transform
  have hrest : k < (lowRest p (secretParts p seed) digest y).length := by
    simpa [lowRest, splitCommitment, hrows, length_secondSecret] using hrow
  have hlow := List.all_eq_true.mp hr _ (List.getElem_mem hrest)
  have hmoved : k < ((secretParts p seed).t0.map
      (timesChallenge p (secretParts p seed) digest y)).length := by
    simpa using hdropped
  have hstep := List.all_eq_true.mp hct0 _ (List.getElem_mem hmoved)
  simp only [lowRest, splitCommitment, List.getElem_zipWith, List.getElem_map, secretParts_matrix,
    secretParts_s2, secretParts_t0] at hlow hstep
  simp only [maskHints, lowRest, splitCommitment, List.getElem_zipWith, List.getElem_map,
    secretParts_matrix, secretParts_s2, secretParts_t0]
  exact applyHints_row hp (length_untransform hw) reduced_untransform
    (length_timesChallenge (length_transform hs2)) (length_timesChallenge (length_transform ht0))
    reduced_untransform hlength hreduced hcoeff hlow hstep

theorem length_maskHints : (maskHints p (secretParts p seed) digest y).length = p.rows := by
  simp [maskHints, lowRest, splitCommitment, length_expandMatrix, length_secondSecret,
    length_droppedVector]

theorem length_of_mem_splitCommitment (hy : AllFull y) :
    ∀ a ∈ splitCommitment p (secretParts p seed) y, a.length = degree := by
  intro a ha
  obtain ⟨row, hrow, rfl⟩ := List.mem_map.mp ha
  rw [List.length_map]
  exact length_untransform (length_dot (allFull_expandMatrix _ _ hrow) hy.map_transform)

theorem length_of_mem_maskHints (hp : p.IsLevel) (hy : AllFull y) :
    ∀ hint ∈ maskHints p (secretParts p seed) digest y, hint.length = degree := by
  have hparts : ∀ part : Nat × Nat → Nat,
      ∀ a ∈ (splitCommitment p (secretParts p seed) y).map (·.map part), a.length = degree := by
    intro part a ha
    obtain ⟨row, hrow, rfl⟩ := List.mem_map.mp ha
    rw [List.length_map, length_of_mem_splitCommitment seed hy row hrow]
  have hrest : AllFull (lowRest p (secretParts p seed) digest y) :=
    forall_mem_zipWith fun a ha s hs => by
      rw [length_sub, hparts _ a ha, length_timesChallenge
        ((allFull_secondSecret seed hp).map_transform s hs), min_self]
  have hmoved : AllFull ((secretParts p seed).t0.map
      (timesChallenge p (secretParts p seed) digest y)) := by
    intro a ha
    rw [secretParts_t0] at ha
    obtain ⟨t, ht, rfl⟩ := List.mem_map.mp ha
    exact length_timesChallenge ((allFull_droppedVector seed hp).map_transform t ht)
  have hoffset : AllFull (List.zipWith Poly.add (lowRest p (secretParts p seed) digest y)
      ((secretParts p seed).t0.map (timesChallenge p (secretParts p seed) digest y))) :=
    forall_mem_zipWith fun a ha b hb => by rw [length_add, hrest a ha, hmoved b hb, min_self]
  exact forall_mem_zipWith fun a ha b hb => by
    rw [List.length_zipWith, hoffset a ha, hparts _ b hb, min_self]

theorem packable_response (hp : p.IsLevel) (hy : AllFull y)
    (hz : (response p (secretParts p seed) digest y).all (within (p.mask - p.slack)) = true) :
    ∀ a ∈ response p (secretParts p seed) digest y, Packable p.maskBits p.mask a := by
  intro a ha
  have hreduced : a.Reduced := by
    have h : ∀ a ∈ response p (secretParts p seed) digest y, Reduced a :=
      forall_mem_zipWith fun _ _ _ _ => reduced_add
    exact h a ha
  exact packable_of_within hp (allFull_response seed hp hy a ha) hreduced
    (List.all_eq_true.mp hz a ha)

theorem length_response (hcolumns : y.length = p.columns) :
    (response p (secretParts p seed) digest y).length = p.columns := by
  simp [response, hcolumns, length_firstSecret]

/-- Keys and signatures that verify have the sizes of the level. -/
theorem length_of_verify {key message signature : Bytes}
    (h : verify p key message signature = true) :
    key.length = p.publicKeySize ∧ signature.length = p.signatureSize := by
  rw [verify] at h
  split at h
  · cases h
  · next hsizes => simpa only [ne_eq, not_or, not_not] using hsizes

/-- A signature of well-sized parts is checked part by part. -/
theorem verify_append (hp : p.IsLevel) {key message challenge : Bytes} {z : List Poly}
    {hints : List (List Bool)} (hkey : key.length = p.publicKeySize)
    (hchallenge : challenge.length = p.challengeBytes) (hcolumns : z.length = p.columns)
    (hz : ∀ a ∈ z, Packable p.maskBits p.mask a) (hrows : hints.length = p.rows)
    (hhints : ∀ hint ∈ hints, hint.length = degree)
    (hcount : hints.flatten.count true ≤ p.maxHints) :
    verify p key message
        (challenge ++ z.flatMap (packBelow p.maskBits p.mask) ++ packHints p hints) =
      verifyParts p key message challenge z hints := by
  obtain ⟨hsize, hread⟩ := unpackHints_packHints hp.maxHints_lt hhints hcount
  have hpacked : (z.flatMap (packBelow p.maskBits p.mask)).length =
      p.columns * Parameters.packedSize p.maskBits := by
    rw [length_flatMap_pack fun a _ => length_packBelow, hcolumns]
  have hz := unpackVector_flatMap _ _ _ hcolumns
    (fun a ha => ⟨length_packBelow, unpackBelow_packBelow (hz a ha)⟩) (packHints p hints)
  have hsignature : (challenge ++ z.flatMap (packBelow p.maskBits p.mask) ++
      packHints p hints).length = p.signatureSize := by
    rw [List.length_append, List.length_append, hchallenge, hpacked, hsize, hrows,
      Parameters.signatureSize, Nat.add_assoc, Nat.add_assoc, Nat.add_assoc]
  have hsizes : ¬(key.length ≠ p.publicKeySize ∨ (challenge ++
      z.flatMap (packBelow p.maskBits p.mask) ++ packHints p hints).length ≠ p.signatureSize) :=
    fun h => h.elim (· hkey) (· hsignature)
  rw [verify, if_neg hsizes]
  simp only [List.append_assoc, List.take_left' hchallenge, List.drop_left' hchallenge,
    List.drop_left' hpacked, hread, hz]

/-- The response of a signature is as small as a signer leaves it. Some verifiers ask this of a
signature, too. -/
def ResponseWithin (p : Parameters) (signature : Bytes) : Prop :=
  ∀ a ∈ unpackVector p.maskBits p.columns (unpackBelow p.maskBits p.mask)
    (signature.drop p.challengeBytes), within (p.mask - p.slack) a = true

/-- Whatever a mask makes of a message for a key that was made from a seed, verifies with the public
half. -/
theorem verify_of_signWithMask (hp : p.IsLevel) {message signature : Bytes} {number : Nat}
    (h : signWithMask? p (secretKey p seed) message number = some signature) :
    verify p (publicKey p seed) message signature = true ∧ ResponseWithin p signature := by
  rw [signWithMask?, read_secretKey seed hp] at h
  obtain ⟨y, hy, hcolumns, hz, hr, hct0, hcount, rfl⟩ := attempt_eq_some h
  have hchallenge : (maskChallenge p (secretParts p seed)
      (messageDigest (secretParts p seed).publicDigest message) y).length = p.challengeBytes :=
    length_shake256 _ _
  obtain ⟨hmatrix, hhigh⟩ := read_publicKey seed hp
  have hpacked := packable_response seed hp hy hz
  constructor
  · rw [verify_append hp (length_publicKey seed) hchallenge (length_response seed hcolumns) hpacked
      (length_maskHints seed) (length_of_mem_maskHints seed hp hy) hcount]
    have hback := applyHints_maskHints seed hp hy hcolumns hr hct0
    rw [givenBack] at hback
    rw [verifyParts]
    simp only [hmatrix, hhigh]
    rw [secretParts_publicDigest] at hback ⊢
    rw [hback, maskChallenge, beq_self_eq_true]
  · have hread := unpackVector_flatMap _ _ _ (length_response seed hcolumns) fun a ha =>
      ⟨length_packBelow, unpackBelow_packBelow (hpacked a ha)⟩
    rw [ResponseWithin, List.append_assoc, List.drop_left' hchallenge, hread]
    exact List.all_eq_true.mp hz

/-- Whatever a key that was made from a seed signs, verifies with the public half. -/
theorem verify_of_mem_searchMasks (hp : p.IsLevel) {message signature : Bytes}
    (h : signature ∈ searchMasks p (secretKey p seed) message) :
    verify p (publicKey p seed) message signature = true ∧ ResponseWithin p signature := by
  obtain ⟨number, hnumber⟩ := Nat.rfindOpt_spec h
  exact verify_of_signWithMask seed hp hnumber

end Verification

end HybridTx.Dilithium
