import HybridTx.Proofs.Secp256k1.Recovery
import HybridTx.Signing.Verify

/-! Signatures that an account is recovered from. They have one form: a parity bit, and components
in range of which the second is in the smaller half. So they are well formed, and of two signatures
with opposite second components at most one names an account. -/

namespace HybridTx.Secp256k1

/-- The group order is odd, so half of the nonzero scalars are small. -/
theorem isHigh_eq_false_iff {s : Nat} : isHigh s = false ↔ s ≤ (groupOrder - 1) / 2 := by
  have hhalf : groupOrder / 2 = (groupOrder - 1) / 2 := by decide
  rw [isHigh, decide_eq_false_iff_not, hhalf]
  exact not_lt

/-- Two small scalars are never opposite. -/
theorem isHigh_neg {s : Nat} (hs : s < groupOrder) (hlow : isHigh s = false) :
    isHigh (groupOrder - s) = true := by
  have hodd : groupOrder = 2 * ((groupOrder - 1) / 2) + 1 := by decide
  rw [← Bool.not_eq_false, isHigh_eq_false_iff]
  rw [isHigh_eq_false_iff] at hlow
  omega

/-- Of two opposite scalars one is small. -/
theorem not_isHigh_sub {s : Nat} (h : isHigh s = true) : isHigh (groupOrder - s) = false := by
  have hodd : groupOrder = 2 * ((groupOrder - 1) / 2) + 1 := by decide
  rw [← Bool.not_eq_false, isHigh_eq_false_iff] at h
  rw [isHigh_eq_false_iff]
  omega

variable {hash : TxHash} {signature : EcdsaSignature} {address : Address}

/-- The group order has as many bits as a component may have. -/
theorem wellFormed_of_lt (hparity : signature.yParity ≤ 1) (hr : signature.r < groupOrder)
    (hs : signature.s < groupOrder) : signature.WellFormed := by
  have hwidth : groupOrder < 2 ^ componentBits := by decide
  exact ⟨hparity, bitLength_le_iff.mpr (hr.trans hwidth), bitLength_le_iff.mpr (hs.trans hwidth)⟩

theorem wellFormed_of_recovered (h : recoverAddress hash signature = some address) :
    signature.WellFormed := by
  obtain ⟨hparity, ⟨-, hr⟩, ⟨-, hs⟩, -⟩ := recoverAddress_eq_some_iff.mp h
  exact wellFormed_of_lt hparity hr hs

theorem recoverAddress_of_not_wellFormed (h : ¬signature.WellFormed) :
    recoverAddress hash signature = none := by
  cases hrecovered : recoverAddress hash signature with
  | none => rfl
  | some address => exact absurd (wellFormed_of_recovered hrecovered) h

section Verifier

variable {m : Type → Type} [Monad m] [LawfulMonad m] (pq : PqVerifier m) (sender : Address)

/-- The check for the form of a signature only tells earlier what recovery would tell. -/
theorem checkClassical_eq (hash : TxHash) (signature : EcdsaSignature) :
    (HybridVerifier.mk (verifier m) pq sender).checkClassical hash signature =
      pure (.ok (recoverAddress hash signature == some sender)) := by
  rw [HybridVerifier.checkClassical]
  split
  · exact pure_bind _ _
  · next hshape =>
    rw [recoverAddress_of_not_wellFormed hshape]
    rfl

/-- What the verifier comes to is told by the recovered account alone. -/
theorem verify_eq (signed : SignedTransaction) :
    let verifier := HybridVerifier.mk (verifier m) pq sender
    verifier.verify signed =
      if recoverAddress signed.signingHash signed.signature = some sender then
        (·.mapError .signer) <$>
          verifier.checkPq signed.signingHash signed.pqSignature signed.pqPublicKey
      else pure (.ok (.rejected .classicalSignature)) := by
  intro verifier
  rw [HybridVerifier.verify, checkClassical_eq]
  by_cases hsender : recoverAddress signed.signingHash signed.signature = some sender
  · rw [if_pos hsender, hsender, beq_self_eq_true, map_eq_pure_bind, pure_bind]
  · rw [if_neg hsender, beq_eq_false_iff_ne.mpr hsender, pure_bind]

end Verifier

/-- Signatures that an account is recovered from are canonical, so a verifier that recovers accounts
gives the verdicts that it would give without a look at the form. When the sign of `s` is changed,
no parity and no hash make it the signature of an account. -/
theorem recovered_signatures_canonical :
    (∀ hash signature address, recoverAddress hash signature = some address →
      signature.yParity ≤ 1 ∧ (1 ≤ signature.r ∧ signature.r < groupOrder) ∧
        (1 ≤ signature.s ∧ signature.s ≤ (groupOrder - 1) / 2) ∧ signature.WellFormed) ∧
    (∀ (m : Type → Type) [Monad m] [LawfulMonad m] (pq : PqVerifier m) (sender : Address)
        (signed : SignedTransaction),
      let verifier := HybridVerifier.mk (verifier m) pq sender
      verifier.verify signed =
        if recoverAddress signed.signingHash signed.signature = some sender then
          (·.mapError .signer) <$>
            verifier.checkPq signed.signingHash signed.pqSignature signed.pqPublicKey
        else pure (.ok (.rejected .classicalSignature))) ∧
    ∀ (hash hash' : TxHash) (parity parity' : UInt8) (r s : Nat), 1 ≤ s → s < groupOrder →
      ¬((recoverAddress hash ⟨parity, r, s⟩).isSome = true ∧
        (recoverAddress hash' ⟨parity', r, groupOrder - s⟩).isSome = true) := by
  refine ⟨?_, ?_, ?_⟩
  · intro hash signature address h
    obtain ⟨hparity, hr, ⟨hs, -⟩, hlow, -⟩ := recoverAddress_eq_some_iff.mp h
    exact ⟨hparity, hr, ⟨hs, isHigh_eq_false_iff.mp hlow⟩, wellFormed_of_recovered h⟩
  · intro m _ _ pq sender signed
    exact verify_eq pq sender signed
  · rintro hash hash' parity parity' r s - hs ⟨hfirst, hsecond⟩
    obtain ⟨address, hrecovered⟩ := Option.isSome_iff_exists.mp hfirst
    obtain ⟨other, hopposite⟩ := Option.isSome_iff_exists.mp hsecond
    obtain ⟨-, -, -, hlow, -⟩ := recoverAddress_eq_some_iff.mp hrecovered
    obtain ⟨-, -, -, hlow', -⟩ := recoverAddress_eq_some_iff.mp hopposite
    have hhigh : isHigh (groupOrder - s) = true := isHigh_neg hs hlow
    rw [hlow'] at hhigh
    cases hhigh

/-- The signature of the key with the number one, and its opposite. -/
theorem recovered_signatures_canonical_unit :
    recoverAddress sampleHash sampleSignature = some unitKey.address ∧
      sampleSignature.s ≤ (groupOrder - 1) / 2 ∧ sampleSignature.WellFormed ∧
      ∀ hash parity, recoverAddress hash
        ⟨parity, sampleSignature.r, groupOrder - sampleSignature.s⟩ = none := by
  obtain ⟨hcanonical, -, htwin⟩ := recovered_signatures_canonical
  obtain ⟨-, -, ⟨-, hlow⟩, hshape⟩ := hcanonical _ _ _ recover_sampleHash
  refine ⟨recover_sampleHash, hlow, hshape, fun hash parity => ?_⟩
  have hfirst : (recoverAddress sampleHash sampleSignature).isSome = true := by
    rw [recover_sampleHash]
    rfl
  have hsecond := htwin sampleHash hash sampleSignature.yParity parity sampleSignature.r
    sampleSignature.s (by decide) (by decide)
  exact Option.not_isSome_iff_eq_none.mp fun h => hsecond ⟨hfirst, h⟩

end HybridTx.Secp256k1
