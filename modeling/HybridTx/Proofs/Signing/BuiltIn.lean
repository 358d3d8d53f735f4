import HybridTx.PostQuantum.Key
import HybridTx.Proofs.Transaction.Wire
import HybridTx.Secp256k1.Key
import HybridTx.Signing.Verify

/-! The verifier with the backends that are built in. Recovery always has an answer, and so has
every post-quantum check but that of a signature whose tag names an algorithm that is known and not
built in. No other bytes on the wire leave a transaction without a verdict. -/

namespace HybridTx

namespace PqAlgorithm

theorem ofId_eq_ok {tag : UInt8} {algorithm : PqAlgorithm} :
    ofId tag = .ok algorithm ↔ tag = algorithm.id := by
  constructor
  · intro h
    rw [ofId] at h
    split at h
    · next found hfound =>
      cases h
      have hnamed := List.find?_some hfound
      exact (eq_of_beq hnamed).symm
    · cases h
  · rintro rfl
    cases algorithm <;> rfl

theorem parameters?_eq_none {algorithm : PqAlgorithm} :
    algorithm.parameters? = none ↔ algorithm.id = 0x04 ∨ algorithm.id = 0x05 := by
  cases algorithm <;> simp [parameters?, id]

end PqAlgorithm

/-- A check of a tagged signature fails for the tags of two algorithms, and for nothing that may
stand behind a tag. -/
theorem verifyTagged_eq_error {publicKey message signature : Bytes} {e : KeyError} :
    verifyTagged publicKey message signature = .error e ↔
      ∃ tag, signature.head? = some tag ∧ (tag = 0x04 ∨ tag = 0x05) ∧
        e = .unsupportedAlgorithm tag := by
  cases signature with
  | nil => simp [verifyTagged]
  | cons tag body =>
    simp only [verifyTagged, List.head?_cons, Option.some.injEq, exists_eq_left']
    cases hid : PqAlgorithm.ofId tag with
    | error cause =>
      have hunknown : ¬(tag = 0x04 ∨ tag = 0x05) := by
        rintro (rfl | rfl) <;> cases hid
      simp [hunknown]
    | ok algorithm =>
      obtain rfl := PqAlgorithm.ofId_eq_ok.mp hid
      rw [← PqAlgorithm.parameters?_eq_none]
      cases hparameters : algorithm.parameters? <;> simp [hparameters, eq_comm]

namespace HybridVerifier

/-- The verifier with the backends that are built in. -/
def builtIn (m : Type → Type) [Monad m] (sender : Address) : HybridVerifier m :=
  ⟨Secp256k1.verifier m, dilithiumVerifier m, sender⟩

section Effectless

variable (m : Type → Type) [Monad m] [LawfulMonad m] (sender : Address) (hash : TxHash)

/-- A classical check that is built in always has an answer. -/
theorem checkClassical_builtIn {signature : EcdsaSignature} (hshape : signature.WellFormed) :
    (builtIn m sender).checkClassical hash signature =
      pure (.ok (Secp256k1.recoverAddress hash signature == some sender)) := by
  rw [checkClassical, if_pos hshape]
  exact pure_bind _ _

theorem checkPq_builtIn (signature publicKey : Bytes) :
    (builtIn m sender).checkPq hash signature publicKey =
      pure ((builtIn Id sender).checkPq hash signature publicKey).run := by
  unfold checkPq
  split
  · rfl
  · simp only [builtIn, dilithiumVerifier, pure_bind]
    generalize (verifyTagged _ _ _).mapError KeyError.toSignerError = answer
    obtain e | _ | _ := answer <;> rfl
  · rfl

/-- The backends that are built in have no effect, so it does not matter where they run. -/
theorem verify_builtIn {signed : SignedTransaction} (hshape : signed.signature.WellFormed) :
    (builtIn m sender).verify signed =
      pure (if Secp256k1.recoverAddress signed.signingHash signed.signature = some sender then
        ((builtIn Id sender).checkPq signed.signingHash signed.pqSignature
          signed.pqPublicKey).run.mapError .signer
      else .ok (.rejected .classicalSignature)) := by
  simp only [verify, checkClassical_builtIn m sender _ hshape, checkPq_builtIn m, pure_bind]
  by_cases hsender :
      Secp256k1.recoverAddress signed.signingHash signed.signature = some sender
  · simp [hsender]
  · have hother : (Secp256k1.recoverAddress signed.signingHash signed.signature == some sender) =
        false := by simpa using hsender
    rw [hother, if_neg hsender]

end Effectless

variable {sender : Address} {hash : TxHash} {e : SignerError}

/-- A post-quantum check that is built in fails for the tags of two algorithms, when there is a
public key to ask about. -/
theorem checkPq_builtIn_eq_error {signature publicKey : Bytes} :
    ((builtIn Id sender).checkPq hash signature publicKey).run = .error e ↔
      publicKey ≠ [] ∧ ∃ tag, signature.head? = some tag ∧ (tag = 0x04 ∨ tag = 0x05) ∧
        e = .unsupportedAlgorithm tag := by
  cases publicKey with
  | nil => cases signature <;> simp [checkPq]
  | cons first key =>
    cases signature with
    | nil => simp [checkPq]
    | cons tag body =>
      simp only [checkPq, builtIn, dilithiumVerifier, pure_bind]
      cases hcheck : verifyTagged (first :: key) hash.bytes (tag :: body) with
      | error cause =>
        obtain ⟨_, htag, hfalcon, rfl⟩ := verifyTagged_eq_error.mp hcheck
        cases htag
        simp [Except.mapError, KeyError.toSignerError, hfalcon, eq_comm]
      | ok holds =>
        have hchecked : ¬(tag = 0x04 ∨ tag = 0x05) := by
          intro hfalcon
          have herror : verifyTagged (first :: key) hash.bytes (tag :: body) =
              .error (.unsupportedAlgorithm tag) :=
            verifyTagged_eq_error.mpr ⟨tag, rfl, hfalcon, rfl⟩
          rw [hcheck] at herror
          cases herror
        cases holds <;> simp [Except.mapError, hchecked]

/-- What verification with the built-in backends comes to is an error for whole pairs of the
expected sender with one of two tags. -/
theorem verify_builtIn_eq_error {signed : SignedTransaction} {e : TransactionError}
    (hshape : signed.signature.WellFormed) :
    ((builtIn Id sender).verify signed).run = .error e ↔
      Secp256k1.recoverAddress signed.signingHash signed.signature = some sender ∧
        signed.pqPublicKey ≠ [] ∧ ∃ tag, signed.pqSignature.head? = some tag ∧
          (tag = 0x04 ∨ tag = 0x05) ∧ e = .signer (.unsupportedAlgorithm tag) := by
  rw [verify_builtIn Id sender hshape, Id.run_pure]
  by_cases hsender : Secp256k1.recoverAddress signed.signingHash signed.signature = some sender
  · simp only [if_pos hsender, mapError_eq_error, checkPq_builtIn_eq_error]
    constructor
    · rintro ⟨_, ⟨hkey, tag, htag, hfalcon, rfl⟩, rfl⟩
      exact ⟨hsender, hkey, tag, htag, hfalcon, rfl⟩
    · rintro ⟨-, hkey, tag, htag, hfalcon, rfl⟩
      exact ⟨_, ⟨hkey, tag, htag, hfalcon, rfl⟩, rfl⟩
  · simp [hsender]

/-- With the backends that are built in, the verification of bytes fails for one cause alone: the
expected sender has signed, and the tag of a whole post-quantum pair names an algorithm that is
known and not built in. -/
theorem only_unsupported_tags_fail {bytes : Bytes} {signed : SignedTransaction}
    (hdecode : SignedTransaction.decode bytes = .ok signed) (sender : Address) :
    let outcome := ((builtIn Id sender).verify signed).run
    (∀ (m : Type → Type) [Monad m] [LawfulMonad m],
      (builtIn m sender).verify signed = pure outcome) ∧
    ((∃ e, outcome = .error e) ↔
      Secp256k1.recoverAddress signed.signingHash signed.signature = some sender ∧
        signed.pqSignature ≠ [] ∧ signed.pqPublicKey ≠ [] ∧
        (signed.pqSignature.head? = some 0x04 ∨ signed.pqSignature.head? = some 0x05)) ∧
    ∀ e, outcome = .error e → ∃ tag, signed.pqSignature.head? = some tag ∧
      e = .signer (.unsupportedAlgorithm tag) ∧ e.isRecoverable = false := by
  intro outcome
  obtain ⟨hshape, -, -⟩ := SignedTransaction.decode_eq_ok_iff.mp hdecode
  refine ⟨fun m => ?_, ⟨?_, ?_⟩, ?_⟩
  · intro _ _
    simp only [outcome, verify_builtIn _ sender hshape, Id.run_pure]
  · rintro ⟨e, herror⟩
    obtain ⟨hsender, hkey, tag, htag, hfalcon, -⟩ := (verify_builtIn_eq_error hshape).mp herror
    have hsignature : signed.pqSignature ≠ [] := fun h => by simp [h] at htag
    rcases hfalcon with rfl | rfl
    · exact ⟨hsender, hsignature, hkey, .inl htag⟩
    · exact ⟨hsender, hsignature, hkey, .inr htag⟩
  · rintro ⟨hsender, -, hkey, htag⟩
    rcases htag with htag | htag
    · exact ⟨_, (verify_builtIn_eq_error hshape).mpr ⟨hsender, hkey, _, htag, .inl rfl, rfl⟩⟩
    · exact ⟨_, (verify_builtIn_eq_error hshape).mpr ⟨hsender, hkey, _, htag, .inr rfl, rfl⟩⟩
  · intro e herror
    obtain ⟨-, -, tag, htag, -, rfl⟩ := (verify_builtIn_eq_error hshape).mp herror
    exact ⟨tag, htag, rfl, rfl⟩

/-- The empty transaction under a signature of the expected sender, with a tag that is known and not
built in. -/
theorem only_unsupported_tags_fail_empty :
    let r := 6112604434500904015787912431867920644506546604550539464719200877597767279065
    let signed : SignedTransaction := ⟨{}, ⟨1, r, r⟩, [0x04, 0xff], [1]⟩
    let sender : Address := ⟨.ofNat 20 0x3b957206a72279d45f746de2db74db5c61fd0900⟩
    SignedTransaction.decode signed.encode = .ok signed ∧
      ((builtIn Id sender).verify signed).run = .error (.signer (.unsupportedAlgorithm 0x04)) := by
  intro r signed sender
  have hdecode : SignedTransaction.decode signed.encode = .ok signed :=
    SignedTransaction.decode_encode (by decide +kernel) (by decide +kernel)
  have hsender : Secp256k1.recoverAddress signed.signingHash signed.signature = some sender := by
    decide +kernel
  obtain ⟨-, hfails, hcause⟩ := only_unsupported_tags_fail hdecode sender
  obtain ⟨e, herror⟩ := hfails.mpr ⟨hsender, by simp [signed], by simp [signed], .inl rfl⟩
  obtain ⟨tag, htag, rfl, -⟩ := hcause e herror
  cases htag
  exact ⟨hdecode, herror⟩

end HybridVerifier

end HybridTx
