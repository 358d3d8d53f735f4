import HybridTx.Proofs.Signing.Acceptance

/-! A transaction that is verified again. What it depends on is the answers of the backends, so when
they answer as before, the verdict is as before. -/

namespace HybridTx

variable {σ : Type}

/-- The verifier answers in a state as it did in the calls that were seen. -/
def PqVerifier.AnswersAsIn (pq : PqVerifier (StateM σ)) (calls : List VerifierCall) (state : σ) :
    Prop :=
  ∀ publicKey hash signature answer, .verify publicKey hash signature answer ∈ calls →
    (pq.verify publicKey hash signature state).1 = answer

namespace HybridVerifier

variable {verifier : HybridVerifier (StateM σ)} {signed : SignedTransaction} {during later : σ}

/-- A pair is judged as before when the backend answers as before. -/
theorem checkPq_again {hash : TxHash} {signature publicKey : Bytes}
    (hanswers : verifier.pq.AnswersAsIn
      (verifier.watched.checkPq hash signature publicKey during).calls later) :
    (verifier.watched.checkPq hash signature publicKey later).result =
      (verifier.watched.checkPq hash signature publicKey during).result := by
  obtain hhalf | ⟨hsignature, hkey⟩ | ⟨hsignature, hkey⟩ := pair_cases signature publicKey
  · rw [checkPq_half hhalf, checkPq_half hhalf]
  · rw [checkPq_absent hsignature hkey, checkPq_absent hsignature hkey]
  · rw [checkPq_present hsignature hkey rfl] at hanswers ⊢
    rw [checkPq_present hsignature hkey rfl, hanswers _ _ _ _ List.mem_cons_self]

/-- Behind a classical backend without a state, a transaction is judged as before when the
post-quantum backend answers as before. -/
theorem verify_again {answer : Except SignerError (Option Address)}
    (hrecover : ∀ state, verifier.classical.recover signed.signingHash signed.signature state =
      (answer, state))
    (hanswers : verifier.pq.AnswersAsIn (verifier.watched.verify signed during).calls later) :
    (verifier.verify signed later).1 = (verifier.verify signed during).1 := by
  rw [← unwatched_verify]
  change (verifier.watched.verify signed later).result =
    (verifier.watched.verify signed during).result
  by_cases hshape : signed.signature.WellFormed
  · have hchecked := fun state => checkClassical_of_wellFormed hshape (hrecover state)
    rcases hholds : answer.map (· == some verifier.expectedSender) with e | _ | _
    · rw [hholds] at hchecked
      rw [verify_of_undecided (hchecked later), verify_of_undecided (hchecked during)]
    · rw [hholds] at hchecked
      rw [verify_of_not_signed (hchecked later), verify_of_not_signed (hchecked during)]
    · rw [hholds] at hchecked
      have hduring := verify_of_signed (hchecked during) rfl
      rw [hduring] at hanswers
      rw [hduring, verify_of_signed (hchecked later) rfl]
      have hpair : verifier.pq.AnswersAsIn (verifier.watched.checkPq signed.signingHash
          signed.pqSignature signed.pqPublicKey during).calls later :=
        fun _ _ _ _ hcall => hanswers _ _ _ _ (List.mem_append_right _ hcall)
      exact congrArg (Except.mapError _) (checkPq_again hpair)
  · rw [verify_of_not_signed (checkClassical_of_not_wellFormed hshape),
      verify_of_not_signed (checkClassical_of_not_wellFormed hshape)]

section Answered

variable {publicKey signature : Bytes} {hash : TxHash} {answer : Except SignerError Bool}

/-- The answer that a call tells is the one that the backend gave. -/
theorem answered_of_mem_checkPq {signingHash : TxHash} {pqSignature pqPublicKey : Bytes}
    (h : .verify publicKey hash signature answer ∈
      (verifier.watched.checkPq signingHash pqSignature pqPublicKey during).calls) :
    (verifier.pq.verify publicKey hash signature during).1 = answer := by
  obtain hhalf | ⟨hsignature, hkey⟩ | ⟨hsignature, hkey⟩ := pair_cases pqSignature pqPublicKey
  · simp [checkPq_half hhalf] at h
  · simp [checkPq_absent hsignature hkey] at h
  · rw [checkPq_present hsignature hkey rfl, List.mem_singleton, VerifierCall.verify.injEq] at h
    obtain ⟨rfl, rfl, rfl, rfl⟩ := h
    rfl

theorem answered_of_mem_verify
    (h : .verify publicKey hash signature answer ∈ (verifier.watched.verify signed during).calls) :
    ∃ between, (verifier.pq.verify publicKey hash signature between).1 = answer := by
  by_cases hshape : signed.signature.WellFormed
  · have hchecked := @checkClassical_of_wellFormed _ verifier signed.signingHash during _ _ _
      hshape rfl
    rcases hholds : (verifier.classical.recover signed.signingHash signed.signature during).1.map
      (· == some verifier.expectedSender) with e | _ | _
    · rw [hholds] at hchecked
      simp [verify_of_undecided hchecked] at h
    · rw [hholds] at hchecked
      simp [verify_of_not_signed hchecked] at h
    · rw [hholds] at hchecked
      rcases hpair : verifier.watched.checkPq signed.signingHash signed.pqSignature
        signed.pqPublicKey _ with ⟨pairCalls, verdict, final⟩
      rw [verify_of_signed hchecked hpair] at h
      have hpairCalls : _ = pairCalls := congrArg Observation.calls hpair
      obtain hcall | hcall := List.mem_append.mp h
      · simp at hcall
      · rw [← hpairCalls] at hcall
        exact ⟨_, answered_of_mem_checkPq hcall⟩
  · simp [verify_of_not_signed (checkClassical_of_not_wellFormed hshape)] at h

end Answered

/-- A backend whose answers are those of a function always answers as before. -/
theorem answersAsIn_of_function {opinion : Bytes → TxHash → Bytes → Except SignerError Bool}
    (hopinion : ∀ publicKey hash signature state,
      (verifier.pq.verify publicKey hash signature state).1 = opinion publicKey hash signature) :
    verifier.pq.AnswersAsIn (verifier.watched.verify signed during).calls later := by
  intro publicKey hash signature answer hcall
  obtain ⟨between, rfl⟩ := answered_of_mem_verify hcall
  rw [hopinion, hopinion]

end HybridVerifier

end HybridTx
