import HybridTx.Proofs.Signing.Completeness

/-! Two transactions that differ in their post-quantum pair alone. The hash and the classical check
do not see the pair, so it can take an acceptance away and never give one. -/

namespace HybridTx

open Rlp

namespace SignedTransaction

/-- The same transaction with another post-quantum pair. -/
def withPq (signed : SignedTransaction) (pqSignature pqPublicKey : Bytes) : SignedTransaction :=
  { signed with pqSignature, pqPublicKey }

/-- Nothing takes less room among the fields than an absent pair. -/
theorem length_fields_withPq_le (signed : SignedTransaction) :
    (Item.encodeAll (signed.withPq [] []).toItems).flatten.length ≤
      (Item.encodeAll signed.toItems).flatten.length := by
  have hempty : (Item.bytes []).encode.length = 1 := rfl
  have hsignature := List.length_pos_iff.mpr (Item.bytes signed.pqSignature).encode_ne_nil
  have hkey := List.length_pos_iff.mpr (Item.bytes signed.pqPublicKey).encode_ne_nil
  simp only [Item.encodeAll_eq_map, toItems, withPq, List.map_append, List.map_cons, List.map_nil,
    List.flatten_append, List.flatten_cons, List.flatten_nil, List.length_append, hempty]
  omega

theorem length_encode_withPq_le (signed : SignedTransaction) :
    (signed.withPq [] []).encode.length ≤ signed.encode.length := by
  have hfields := signed.length_fields_withPq_le
  have hheader : (Header.mk .list _).encode.length ≤ (Header.mk .list _).encode.length :=
    Header.length_encode_mono hfields
  simp only [encode, length_encodeTagged, Item.encode_list, List.length_append]
  omega

end SignedTransaction

variable {σ : Type}

/-- The answers of a classical backend are those of a function of the hash and the signature. -/
def ClassicalVerifier.Computes (verifier : ClassicalVerifier (StateM σ))
    (recover : TxHash → EcdsaSignature → Except SignerError (Option Address)) : Prop :=
  ∀ hash signature state, (verifier.recover hash signature state).1 = recover hash signature

/-- What is seen of a verification that the classical check has ended: it says no, or its backend
has failed and nobody else was asked. -/
def Observation.EndedClassically
    (seen : Observation VerifierCall σ (Except TransactionError Verdict)) : Prop :=
  seen.result = .ok (.rejected .classicalSignature) ∨
    ∃ hash signature e, seen.calls = [.recover hash signature (.error e)] ∧
      seen.result = .error (.signer e)

namespace HybridVerifier

variable {verifier : HybridVerifier (StateM σ)} {signed : SignedTransaction}
  {recover : TxHash → EcdsaSignature → Except SignerError (Option Address)}

/-- Without the expected sender's signature, the answer of the classical backend is all there is. -/
theorem verify_of_not_recovered (hshape : signed.signature.WellFormed)
    (hrecover : verifier.classical.Computes recover)
    (hother : recover signed.signingHash signed.signature ≠ .ok (some verifier.expectedSender))
    (state : σ) :
    ∃ after, verifier.watched.verify signed state =
      ⟨[.recover signed.signingHash signed.signature
          (recover signed.signingHash signed.signature)],
        ((recover signed.signingHash signed.signature).map fun _ =>
          .rejected .classicalSignature).mapError .signer, after⟩ := by
  rcases hanswer : verifier.classical.recover signed.signingHash signed.signature state with
    ⟨answer, after⟩
  have hchecked := checkClassical_of_wellFormed hshape hanswer
  rw [← hrecover _ _ state, hanswer] at hother ⊢
  refine ⟨after, ?_⟩
  cases answer with
  | error e => exact verify_of_undecided hchecked
  | ok recovered =>
    have hfalse : (recovered == some verifier.expectedSender) = false := by
      simpa using fun h => hother (congrArg Except.ok h)
    rw [Except.map, hfalse] at hchecked
    exact verify_of_not_signed hchecked

/-- With the expected sender's signature, the pair decides. -/
theorem verify_of_recovered_watched (hshape : signed.signature.WellFormed)
    (hrecover : verifier.classical.Computes recover)
    (hsender : recover signed.signingHash signed.signature = .ok (some verifier.expectedSender))
    (state : σ) :
    ∃ between,
      let pair := verifier.watched.checkPq signed.signingHash signed.pqSignature
        signed.pqPublicKey between
      verifier.watched.verify signed state =
        ⟨.recover signed.signingHash signed.signature
            (.ok (some verifier.expectedSender)) :: pair.calls,
          pair.result.mapError .signer, pair.state⟩ := by
  rcases hanswer : verifier.classical.recover signed.signingHash signed.signature state with
    ⟨answer, between⟩
  rw [← hrecover _ _ state, hanswer] at hsender
  dsimp only at hsender
  subst hsender
  exact ⟨between, verify_of_signed (checkClassical_of_recovered hshape hanswer) rfl⟩

/-- The post-quantum check accepts for the expected sender, rejects the pair, or fails with its
backend. -/
theorem checkPq_outcome (verifier : HybridVerifier (StateM σ)) (hash : TxHash)
    (signature publicKey : Bytes) (state : σ) :
    let seen := verifier.watched.checkPq hash signature publicKey state
    (∃ mode, seen.result = .ok (.accepted verifier.expectedSender mode)) ∨
      seen.result = .ok (.rejected .pqSignature) ∨
      ∃ e, seen.result = .error e ∧ seen.calls = [.verify publicKey hash signature (.error e)] := by
  intro seen
  obtain hhalf | ⟨hsignature, hkey⟩ | ⟨hsignature, hkey⟩ := pair_cases signature publicKey
  · exact .inr (.inl (congrArg Observation.result (checkPq_half hhalf)))
  · exact .inl ⟨_, congrArg Observation.result (checkPq_absent hsignature hkey)⟩
  · rcases hanswer : verifier.pq.verify publicKey hash signature state with ⟨opinion, after⟩
    have hseen := checkPq_present hsignature hkey hanswer
    obtain e | _ | _ := opinion
    · exact .inr (.inr ⟨e, congrArg Observation.result hseen, congrArg Observation.calls hseen⟩)
    · exact .inr (.inl (congrArg Observation.result hseen))
    · exact .inl ⟨_, congrArg Observation.result hseen⟩

/-- The classical check ends a verification exactly when it does not find the expected sender. -/
theorem endedClassically_iff (hshape : signed.signature.WellFormed)
    (hrecover : verifier.classical.Computes recover) (state : σ) :
    (verifier.watched.verify signed state).EndedClassically ↔
      recover signed.signingHash signed.signature ≠ .ok (some verifier.expectedSender) := by
  constructor
  · intro hended hsender
    obtain ⟨between, hseen⟩ := verify_of_recovered_watched hshape hrecover hsender state
    rw [hseen] at hended
    obtain hrejected | ⟨_, _, e, hcalls, -⟩ := hended
    · have hpair := mapError_eq_ok.mp hrejected
      obtain ⟨mode, h⟩ | h | ⟨e, h, -⟩ := checkPq_outcome verifier signed.signingHash
        signed.pqSignature signed.pqPublicKey between
      all_goals
        rw [h] at hpair
        cases hpair
    · cases (List.cons.inj hcalls).1
  · intro hother
    obtain ⟨after, hseen⟩ := verify_of_not_recovered hshape hrecover hother state
    rw [hseen]
    cases recover signed.signingHash signed.signature with
    | error e => exact .inr ⟨_, _, e, rfl, rfl⟩
    | ok recovered => exact .inl rfl

/-- With another pair the classical check ends the verification too, and in the same way. -/
theorem verify_withPq_of_ended (hshape : signed.signature.WellFormed)
    (hrecover : verifier.classical.Computes recover) {state : σ}
    (hended : (verifier.watched.verify signed state).EndedClassically)
    (pqSignature pqPublicKey : Bytes) (later : σ) :
    let seen := verifier.watched.verify (signed.withPq pqSignature pqPublicKey) later
    seen.EndedClassically ∧ seen.result = (verifier.watched.verify signed state).result := by
  intro seen
  have hwithPq : (signed.withPq pqSignature pqPublicKey).signature.WellFormed := hshape
  have hother := (endedClassically_iff hshape hrecover state).mp hended
  obtain ⟨after, hseen⟩ := verify_of_not_recovered hshape hrecover hother state
  obtain ⟨final, hlater⟩ := verify_of_not_recovered hwithPq hrecover hother later
  refine ⟨(endedClassically_iff hwithPq hrecover later).mpr hother, ?_⟩
  exact (congrArg Observation.result hlater).trans (congrArg Observation.result hseen).symm

/-- What is accepted, the expected sender has signed. -/
theorem recover_of_accepted (hshape : signed.signature.WellFormed)
    (hrecover : verifier.classical.Computes recover) {state : σ} {sender : Address}
    {mode : SignatureMode}
    (haccepted : (verifier.watched.verify signed state).result = .ok (.accepted sender mode)) :
    sender = verifier.expectedSender ∧
      recover signed.signingHash signed.signature = .ok (some verifier.expectedSender) := by
  refine ⟨(verify_accepted haccepted).1, ?_⟩
  by_contra hother
  obtain ⟨after, hseen⟩ := verify_of_not_recovered hshape hrecover hother state
  rw [hseen] at haccepted
  obtain ⟨_, -, hrejected⟩ := map_eq_ok.mp (mapError_eq_ok.mp haccepted)
  cases hrejected

/-- What the expected sender has signed is accepted in its mode, unless the pair is rejected or its
backend fails. -/
theorem verify_outcome_of_recovered (hshape : signed.signature.WellFormed)
    (hrecover : verifier.classical.Computes recover)
    (hsender : recover signed.signingHash signed.signature = .ok (some verifier.expectedSender))
    (state : σ) :
    let seen := verifier.watched.verify signed state
    seen.result = .ok (.accepted verifier.expectedSender signed.mode) ∨
      seen.result = .ok (.rejected .pqSignature) ∨
      ∃ e, seen.result = .error (.signer e) ∧
        .verify signed.pqPublicKey signed.signingHash signed.pqSignature (.error e) ∈
          seen.calls := by
  intro seen
  obtain ⟨between, hseen⟩ := verify_of_recovered_watched hshape hrecover hsender state
  have hresult := congrArg Observation.result hseen
  obtain ⟨mode, hpair⟩ | hpair | ⟨e, hpair, hcalls⟩ :=
    checkPq_outcome verifier signed.signingHash signed.pqSignature signed.pqPublicKey between
  · have haccepted := hresult.trans (congrArg (Except.mapError _) hpair)
    obtain ⟨-, rfl⟩ := verify_accepted haccepted
    exact .inl haccepted
  · exact .inr (.inl (hresult.trans (congrArg (Except.mapError _) hpair)))
  · refine .inr (.inr ⟨e, hresult.trans (congrArg (Except.mapError _) hpair), ?_⟩)
    have hmem := congrArg Observation.calls hseen
    rw [hcalls] at hmem
    simp [seen, hmem]

end HybridVerifier

/-- Of two transactions that differ in their post-quantum pair alone, the classical check ends both
or neither, with the same outcome. One that is accepted would be accepted without its pair too, so a
pair turns nothing into an acceptance. -/
theorem pq_pair_only_restricts {verifier : HybridVerifier (StateM σ)}
    {recover : TxHash → EcdsaSignature → Except SignerError (Option Address)}
    (hrecover : verifier.classical.Computes recover) {signed : SignedTransaction}
    (hshape : signed.signature.WellFormed) (hlength : signed.encode.length < lengthBound)
    (pqSignature pqPublicKey : Bytes)
    (hother : (signed.withPq pqSignature pqPublicKey).encode.length < lengthBound)
    (state stateOther stateBare : σ) :
    let other := signed.withPq pqSignature pqPublicKey
    let bare := signed.withPq [] []
    let seen := verifier.watched.verifyBytes signed.encode state
    let seenOther := verifier.watched.verifyBytes other.encode stateOther
    let seenBare := verifier.watched.verifyBytes bare.encode stateBare
    ((SignedTransaction.decode signed.encode).map (·.signingHash) = .ok signed.signingHash ∧
      (SignedTransaction.decode other.encode).map (·.signingHash) = .ok signed.signingHash) ∧
    (∀ outcome, seen.EndedClassically ∧ seen.result = outcome ↔
      seenOther.EndedClassically ∧ seenOther.result = outcome) ∧
    (∀ sender mode, seenOther.result = .ok (.accepted sender mode) →
      seenBare.result = .ok (.accepted sender .classicalOnly) ∧
        seenBare.calls = [.recover signed.signingHash signed.signature (.ok (some sender))]) ∧
    ∀ sender mode, seenBare.result = .ok (.accepted sender mode) →
      seenOther.result = .ok (.accepted sender other.mode) ∨
      seenOther.result = .ok (.rejected .pqSignature) ∨
      ∃ e, seenOther.result = .error (.signer e) ∧
        .verify pqPublicKey signed.signingHash pqSignature (.error e) ∈ seenOther.calls := by
  intro other bare seen seenOther seenBare
  have hbare : bare.encode.length < lengthBound :=
    lt_of_le_of_lt signed.length_encode_withPq_le hlength
  have hotherShape : other.signature.WellFormed := hshape
  have hbareShape : bare.signature.WellFormed := hshape
  have hseen : seen = verifier.watched.verify signed state :=
    congrFun (HybridVerifier.verifyBytes_encode hshape hlength _) state
  have hseenOther : seenOther = verifier.watched.verify other stateOther :=
    congrFun (HybridVerifier.verifyBytes_encode hotherShape hother _) stateOther
  have hseenBare : seenBare = verifier.watched.verify bare stateBare :=
    congrFun (HybridVerifier.verifyBytes_encode hbareShape hbare _) stateBare
  rw [hseen, hseenOther, hseenBare]
  refine ⟨⟨?_, ?_⟩, ?_, ?_, ?_⟩
  · rw [SignedTransaction.decode_encode hshape hlength]
    rfl
  · rw [SignedTransaction.decode_encode hotherShape hother]
    rfl
  · intro outcome
    constructor
    · rintro ⟨hended, rfl⟩
      exact HybridVerifier.verify_withPq_of_ended hshape hrecover hended _ _ stateOther
    · rintro ⟨hended, rfl⟩
      exact HybridVerifier.verify_withPq_of_ended hotherShape hrecover hended _ _ state
  · intro sender mode haccepted
    obtain ⟨rfl, hsender⟩ :=
      HybridVerifier.recover_of_accepted hotherShape hrecover haccepted
    obtain ⟨between, h⟩ :=
      HybridVerifier.verify_of_recovered_watched hbareShape hrecover hsender stateBare
    exact ⟨congrArg Observation.result h, congrArg Observation.calls h⟩
  · intro sender mode haccepted
    obtain ⟨rfl, hsender⟩ := HybridVerifier.recover_of_accepted hbareShape hrecover haccepted
    exact HybridVerifier.verify_outcome_of_recovered hotherShape hrecover hsender stateOther

/-- Half a pair, a pair that is accepted in its place, and none. -/
theorem pq_pair_only_restricts_half :
    let recover (_ : TxHash) (signature : EcdsaSignature) : Except SignerError (Option Address) :=
      .ok (if signature.s = 9 then some .zero else none)
    let verifier : HybridVerifier (StateM Nat) :=
      ⟨⟨fun hash signature count => (recover hash signature, count + 1)⟩,
        ⟨fun publicKey _ signature count => (.ok (publicKey == signature), count + 1)⟩, .zero⟩
    let signed : SignedTransaction := ⟨wideTransaction, ⟨1, 7, 9⟩, [2], []⟩
    let other := signed.withPq [3] [3]
    let bare := signed.withPq [] []
    verifier.classical.Computes recover ∧ signed.signature.WellFormed ∧
    signed.encode.length < lengthBound ∧ other.encode.length < lengthBound ∧
    (verifier.watched.verifyBytes other.encode 0).result = .ok (.accepted .zero .hybrid) ∧
    (verifier.watched.verifyBytes bare.encode 5).result = .ok (.accepted .zero .classicalOnly) ∧
    (verifier.watched.verifyBytes bare.encode 5).calls =
      [.recover signed.signingHash ⟨1, 7, 9⟩ (.ok (some .zero))] := by
  intro recover verifier signed other bare
  have hrecover : verifier.classical.Computes recover := fun _ _ _ => rfl
  have hshape : signed.signature.WellFormed := by decide +kernel
  have hlength : signed.encode.length < lengthBound := by decide +kernel
  have hother : other.encode.length < lengthBound := by decide +kernel
  have haccepted : (verifier.watched.verifyBytes other.encode 0).result =
      .ok (.accepted .zero .hybrid) := by
    have hotherShape : other.signature.WellFormed := hshape
    have hpair : verifier.watched.checkPq other.signingHash [3] [3] 1 =
        ⟨[.verify [3] other.signingHash [3] (.ok true)], .ok (.accepted .zero .hybrid), 2⟩ :=
      HybridVerifier.checkPq_present (by simp) (by simp) rfl
    rw [HybridVerifier.verifyBytes_encode hotherShape hother]
    exact congrArg Observation.result (HybridVerifier.verify_of_signed
      (HybridVerifier.checkClassical_of_recovered hotherShape rfl) hpair)
  obtain ⟨-, -, hbare, -⟩ :=
    pq_pair_only_restricts hrecover hshape hlength [3] [3] hother 0 0 5
  exact ⟨hrecover, hshape, hlength, hother, haccepted, hbare _ _ haccepted⟩

end HybridTx
