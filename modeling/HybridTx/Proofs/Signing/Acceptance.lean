import HybridTx.Proofs.Results
import HybridTx.Proofs.Signing.Watched

/-! The acceptance rule: which backends are asked about a transaction, what they are asked, and what
becomes of their answers. -/

namespace HybridTx

theorem SignedTransaction.mode_eq_classicalOnly_iff {signed : SignedTransaction} :
    signed.mode = .classicalOnly ↔ signed.pqSignature = [] ∧ signed.pqPublicKey = [] := by
  simp [mode]

namespace HybridVerifier

variable {Call σ : Type}

section General

variable {verifier : HybridVerifier (Watched Call σ)} {signed : SignedTransaction}
  {state after : σ} {calls : List Call}

theorem verify_of_undecided {e : SignerError}
    (h : verifier.checkClassical signed.signingHash signed.signature state =
      ⟨calls, .error e, after⟩) :
    verifier.verify signed state = ⟨calls, .error (.signer e), after⟩ := by
  rw [verify]
  simp [Watched.bind_apply h, Watched.pure_apply]

theorem verify_of_not_signed
    (h : verifier.checkClassical signed.signingHash signed.signature state =
      ⟨calls, .ok false, after⟩) :
    verifier.verify signed state = ⟨calls, .ok (.rejected .classicalSignature), after⟩ := by
  rw [verify]
  simp [Watched.bind_apply h, Watched.pure_apply]

/-- Once the classical signature holds, the post-quantum pair decides. -/
theorem verify_of_signed {pqCalls : List Call} {verdict : Except SignerError Verdict} {final : σ}
    (h : verifier.checkClassical signed.signingHash signed.signature state =
      ⟨calls, .ok true, after⟩)
    (hpq : verifier.checkPq signed.signingHash signed.pqSignature signed.pqPublicKey after =
      ⟨pqCalls, verdict, final⟩) :
    verifier.verify signed state = ⟨calls ++ pqCalls, verdict.mapError .signer, final⟩ := by
  rw [verify]
  simp [Watched.bind_apply h, Watched.bind_apply hpq, Watched.pure_apply]

end General

variable {verifier : HybridVerifier (StateM σ)} {hash : TxHash} {state after : σ}

/-- A signature that is not well formed is shown to nobody. -/
theorem checkClassical_of_not_wellFormed {signature : EcdsaSignature}
    (h : ¬signature.WellFormed) :
    verifier.watched.checkClassical hash signature state = ⟨[], .ok false, state⟩ := by
  rw [checkClassical, if_neg h]
  rfl

theorem checkClassical_of_wellFormed {signature : EcdsaSignature}
    {answer : Except SignerError (Option Address)} (h : signature.WellFormed)
    (hanswer : verifier.classical.recover hash signature state = (answer, after)) :
    verifier.watched.checkClassical hash signature state =
      ⟨[.recover hash signature answer],
        answer.map (· == some verifier.expectedSender), after⟩ := by
  rw [checkClassical, if_pos h]
  have hseen : verifier.watched.classical.recover hash signature state =
      ⟨[.recover hash signature answer], answer, after⟩ := watch_apply hanswer
  rw [Watched.bind_apply hseen]
  cases answer <;> rfl

/-- The signature of the expected sender holds. -/
theorem checkClassical_of_recovered {signature : EcdsaSignature} (h : signature.WellFormed)
    (hanswer : verifier.classical.recover hash signature state =
      (.ok (some verifier.expectedSender), after)) :
    verifier.watched.checkClassical hash signature state =
      ⟨[.recover hash signature (.ok (some verifier.expectedSender))], .ok true, after⟩ := by
  rw [checkClassical_of_wellFormed h hanswer, Except.map, beq_self_eq_true]

theorem checkPq_absent {signature publicKey : Bytes} (hsignature : signature = [])
    (hkey : publicKey = []) :
    verifier.watched.checkPq hash signature publicKey state =
      ⟨[], .ok (.accepted verifier.expectedSender .classicalOnly), state⟩ := by
  subst hsignature hkey
  rfl

/-- Half a pair is rejected unseen. -/
theorem checkPq_half {signature publicKey : Bytes} (h : signature = [] ↔ publicKey ≠ []) :
    verifier.watched.checkPq hash signature publicKey state =
      ⟨[], .ok (.rejected .pqSignature), state⟩ := by
  cases signature <;> cases publicKey <;> simp at h
  · rfl
  · rfl

theorem checkPq_present {signature publicKey : Bytes} {answer : Except SignerError Bool}
    (hsignature : signature ≠ []) (hkey : publicKey ≠ [])
    (hanswer : verifier.pq.verify publicKey hash signature state = (answer, after)) :
    verifier.watched.checkPq hash signature publicKey state =
      ⟨[.verify publicKey hash signature answer],
        answer.map fun holds =>
          if holds then .accepted verifier.expectedSender .hybrid else .rejected .pqSignature,
        after⟩ := by
  obtain ⟨_, _, rfl⟩ := List.exists_cons_of_ne_nil hsignature
  obtain ⟨_, _, rfl⟩ := List.exists_cons_of_ne_nil hkey
  have hseen : verifier.watched.pq.verify _ hash _ state =
      ⟨[.verify _ hash _ answer], answer, after⟩ := watch_apply hanswer
  rw [checkPq, Watched.bind_apply hseen]
  obtain e | _ | _ := answer <;> rfl

/-- A pair is there in one half, not at all, or whole. -/
theorem pair_cases (signature publicKey : Bytes) :
    (signature = [] ↔ publicKey ≠ []) ∨ (signature = [] ∧ publicKey = []) ∨
      (signature ≠ [] ∧ publicKey ≠ []) := by
  cases signature <;> cases publicKey <;> simp

/-- An accepted pair is absent or complete. -/
theorem checkPq_accepted {signature publicKey : Bytes} {sender : Address} {mode : SignatureMode}
    (h : (verifier.watched.checkPq hash signature publicKey state).result =
      .ok (.accepted sender mode)) :
    sender = verifier.expectedSender ∧
      (mode = .classicalOnly ↔ signature = [] ∧ publicKey = []) := by
  obtain hhalf | ⟨hsignature, hkey⟩ | ⟨hsignature, hkey⟩ := pair_cases signature publicKey
  · rw [checkPq_half hhalf] at h
    cases h
  · rw [checkPq_absent hsignature hkey] at h
    cases h
    simp [hsignature, hkey]
  · rw [checkPq_present hsignature hkey rfl] at h
    obtain ⟨holds, -, hverdict⟩ := map_eq_ok.mp h
    cases holds
    · cases hverdict
    · cases hverdict
      simp [hsignature]

/-- The sender of an accepted transaction is the expected one, and its mode is the transaction's. -/
theorem verify_accepted {signed : SignedTransaction} {sender : Address} {mode : SignatureMode}
    (h : (verifier.watched.verify signed state).result = .ok (.accepted sender mode)) :
    sender = verifier.expectedSender ∧ mode = signed.mode := by
  rcases hchecked : verifier.watched.checkClassical signed.signingHash signed.signature state with
    ⟨calls, e | _ | _, after⟩
  · rw [verify_of_undecided hchecked] at h
    cases h
  · rw [verify_of_not_signed hchecked] at h
    cases h
  · rw [verify_of_signed hchecked rfl] at h
    obtain ⟨hsender, hmode⟩ := checkPq_accepted (mapError_eq_ok.mp h)
    rw [← SignedTransaction.mode_eq_classicalOnly_iff] at hmode
    refine ⟨hsender, ?_⟩
    revert hmode
    cases mode <;> cases signed.mode <;> decide

/-- The acceptance rule, for backends that answer anything, fail or keep state. Each is asked once
at most, about the signing hash, the post-quantum one only about a whole pair of the expected
sender; a backend that fails is the one cause of an error. -/
theorem acceptance_rule (verifier : HybridVerifier (StateM σ)) (signed : SignedTransaction)
    (state : σ) :
    let hash := signed.signingHash
    let seen := verifier.watched.verify signed state
    verifier.verify signed state = (seen.result, seen.state) ∧
    (¬signed.signature.WellFormed → seen = ⟨[], .ok (.rejected .classicalSignature), state⟩) ∧
    (signed.signature.WellFormed → ∀ answer after,
      verifier.classical.recover hash signed.signature state = (answer, after) →
      let recovery := VerifierCall.recover hash signed.signature answer
      (∀ e, answer = .error e → seen = ⟨[recovery], .error (.signer e), after⟩) ∧
      (∀ recovered, answer = .ok recovered → recovered ≠ some verifier.expectedSender →
        seen = ⟨[recovery], .ok (.rejected .classicalSignature), after⟩) ∧
      (answer = .ok (some verifier.expectedSender) →
        (signed.pqSignature = [] → signed.pqPublicKey = [] →
          seen = ⟨[recovery], .ok (.accepted verifier.expectedSender .classicalOnly), after⟩) ∧
        ((signed.pqSignature = [] ↔ signed.pqPublicKey ≠ []) →
          seen = ⟨[recovery], .ok (.rejected .pqSignature), after⟩) ∧
        (signed.pqSignature ≠ [] → signed.pqPublicKey ≠ [] → ∀ opinion final,
          verifier.pq.verify signed.pqPublicKey hash signed.pqSignature after = (opinion, final) →
          let check := VerifierCall.verify signed.pqPublicKey hash signed.pqSignature opinion
          (∀ e, opinion = .error e → seen = ⟨[recovery, check], .error (.signer e), final⟩) ∧
          (opinion = .ok true →
            seen = ⟨[recovery, check], .ok (.accepted verifier.expectedSender .hybrid), final⟩) ∧
          (opinion = .ok false →
            seen = ⟨[recovery, check], .ok (.rejected .pqSignature), final⟩)))) ∧
    ∀ sender mode, seen.result = .ok (.accepted sender mode) →
      sender = verifier.expectedSender ∧ mode = signed.mode := by
  intro hash seen
  refine ⟨?_, ?_, ?_, ?_⟩
  · rw [← unwatched_verify]
    rfl
  · intro hshape
    exact verify_of_not_signed (checkClassical_of_not_wellFormed hshape)
  · intro hshape answer after hanswer recovery
    have hchecked := checkClassical_of_wellFormed hshape hanswer
    refine ⟨?_, ?_, ?_⟩
    · rintro e rfl
      exact verify_of_undecided hchecked
    · rintro recovered rfl hother
      have hfalse : (recovered == some verifier.expectedSender) = false := by simpa using hother
      apply verify_of_not_signed
      rw [hchecked, Except.map, hfalse]
    · rintro rfl
      have htrue := checkClassical_of_recovered hshape hanswer
      refine ⟨?_, ?_, ?_⟩
      · intro hsignature hkey
        exact verify_of_signed htrue (checkPq_absent hsignature hkey)
      · intro hhalf
        exact verify_of_signed htrue (checkPq_half hhalf)
      · intro hsignature hkey opinion final hopinion check
        have hverdict := verify_of_signed htrue (checkPq_present hsignature hkey hopinion)
        refine ⟨?_, ?_, ?_⟩
        · rintro e rfl
          exact hverdict
        · rintro rfl
          exact hverdict
        · rintro rfl
          exact hverdict
  · intro sender mode haccepted
    exact verify_accepted haccepted

/-- The expected sender has signed, and the post-quantum backend is out of reach. -/
theorem acceptance_rule_offline :
    let verifier : HybridVerifier (StateM Nat) :=
      ⟨⟨fun _ _ count => (.ok (some .zero), count + 1)⟩,
        ⟨fun _ _ _ count => (.error (.unavailable "offline"), count + 1)⟩, .zero⟩
    let signed : SignedTransaction := ⟨{}, ⟨1, 7, 9⟩, [2], [1]⟩
    signed.signature.WellFormed ∧
      verifier.watched.verify signed 0 =
        ⟨[.recover signed.signingHash ⟨1, 7, 9⟩ (.ok (some .zero)),
            .verify [1] signed.signingHash [2] (.error (.unavailable "offline"))],
          .error (.signer (.unavailable "offline")), 2⟩ := by
  intro verifier signed
  have hshape : signed.signature.WellFormed := by decide +kernel
  obtain ⟨-, -, hrule, -⟩ := acceptance_rule verifier signed 0
  obtain ⟨-, -, hsender⟩ := hrule hshape _ _ rfl
  obtain ⟨-, -, hpair⟩ := hsender rfl
  exact ⟨hshape, (hpair (by simp [signed]) (by simp [signed]) _ _ rfl).1 _ rfl⟩

end HybridVerifier

end HybridTx
