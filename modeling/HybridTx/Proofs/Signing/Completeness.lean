import HybridTx.Proofs.Signing.Acceptance
import HybridTx.Proofs.Signing.Attachment
import HybridTx.Proofs.Transaction.Wire

/-! Honest transactions on their whole way: signed, sent, read and verified. The hash that is signed
is the hash of what arrives, so a verifier accepts what signers it fits have signed. -/

namespace HybridTx

open Rlp

section Ways

variable {m : Type → Type} [Monad m] {Key PqKey : Type}

/-- Signs with both keys. -/
def Transaction.signHybrid (tx : Transaction) (signer : ClassicalSigner m Key) (key : Key)
    (pqSigner : PqSigner m PqKey) (pqKey : PqKey) (pqPublicKey : Bytes) :
    m (Except TransactionError SignedTransaction) := do
  match ← tx.signClassical signer key with
  | .error e => pure (.error e)
  | .ok classical => classical.attachPq pqSigner pqKey pqPublicKey

/-- Signs with the classical key alone. -/
def Transaction.signFallback (tx : Transaction) (signer : ClassicalSigner m Key) (key : Key) :
    m (Except TransactionError SignedTransaction) := do
  match ← tx.signClassical signer key with
  | .error e => pure (.error e)
  | .ok classical => pure (.ok classical.fallback)

/-- The verdict on a transaction that arrives as bytes. -/
def HybridVerifier.verifyBytes (verifier : HybridVerifier m) (bytes : Bytes) :
    m (Except TransactionError Verdict) :=
  match SignedTransaction.decode bytes with
  | .error e => pure (.error e)
  | .ok signed => verifier.verify signed

theorem HybridVerifier.verifyBytes_encode {signed : SignedTransaction}
    (hshape : signed.signature.WellFormed) (hlength : signed.encode.length < lengthBound)
    (verifier : HybridVerifier m) :
    verifier.verifyBytes signed.encode = verifier.verify signed := by
  rw [verifyBytes, SignedTransaction.decode_encode hshape hlength]

end Ways

variable {σ Key PqKey : Type} {state after : σ}

/-- The signer signs every hash with every key, and the verifier names the account of the key for
each of its signatures, whatever has happened since. -/
def ClassicalSigner.RecoveredBy (signer : ClassicalSigner (StateM σ) Key)
    (verifier : ClassicalVerifier (StateM σ)) (address : Key → Address) : Prop :=
  ∀ key hash state, ∃ signature after, signer.sign key hash state = (.ok signature, after) ∧
    signature.WellFormed ∧
    ∀ later, (verifier.recover hash signature later).1 = .ok (some (address key))

/-- The signer signs every hash with the key, and the verifier accepts each of its signatures under
the public key, whatever has happened since. -/
def PqSigner.MatchedBy (signer : PqSigner (StateM σ) Key) (verifier : PqVerifier (StateM σ))
    (key : Key) (publicKey : Bytes) : Prop :=
  publicKey ≠ [] ∧ ∀ hash state, ∃ signature after,
    signer.sign key hash state = (.ok signature, after) ∧ signature ≠ [] ∧
    ∀ later, (verifier.verify publicKey hash signature later).1 = .ok true

/-- A signature of the right shape is kept with the hash that it is for. -/
theorem Transaction.signClassical_of_signed {tx : Transaction}
    {signer : ClassicalSigner (StateM σ) Key} {key : Key} {signature : EcdsaSignature}
    (hsigned : signer.sign key tx.hash state = (.ok signature, after))
    (hshape : signature.WellFormed) :
    tx.signClassical signer key state = (.ok ⟨tx, tx.hash, signature⟩, after) := by
  have hseen := signClassical_eq_ok_iff.mpr ⟨signature, hsigned, hshape, rfl, rfl⟩
  rw [← unwatched_signClassical, Watched.unwatched, hseen]

theorem ClassicallySigned.attachPq_of_signed {classical : ClassicallySigned}
    {signer : PqSigner (StateM σ) Key} {key : Key} {pqSignature pqPublicKey : Bytes}
    (hsigned : signer.sign key classical.hash state = (.ok pqSignature, after))
    (hsignature : pqSignature ≠ []) (hkey : pqPublicKey ≠ []) :
    classical.attachPq signer key pqPublicKey state =
      (.ok ⟨classical.transaction, classical.signature, pqSignature, pqPublicKey⟩, after) := by
  have hattached : classical.attachSignature pqSignature pqPublicKey = .ok ⟨_, _, _, _⟩ :=
    attachSignature_eq_ok_iff.mpr ⟨hsignature, hkey, rfl⟩
  have hseen := attachPq_eq_ok_iff.mpr ⟨pqSignature, hsigned, rfl, hattached⟩
  rw [← unwatched_attachPq, Watched.unwatched, hseen]

theorem Transaction.signHybrid_of_signed {tx : Transaction}
    {signer : ClassicalSigner (StateM σ) Key} {key : Key} {signature : EcdsaSignature} {between : σ}
    (hsigned : signer.sign key tx.hash state = (.ok signature, between))
    (hshape : signature.WellFormed) {pqSigner : PqSigner (StateM σ) PqKey} {pqKey : PqKey}
    {pqSignature pqPublicKey : Bytes}
    (hpqSigned : pqSigner.sign pqKey tx.hash between = (.ok pqSignature, after))
    (hsignature : pqSignature ≠ []) (hkey : pqPublicKey ≠ []) :
    tx.signHybrid signer key pqSigner pqKey pqPublicKey state =
      (.ok ⟨tx, signature, pqSignature, pqPublicKey⟩, after) := by
  have hclassical := signClassical_of_signed hsigned hshape
  have hattached : ClassicallySigned.attachPq ⟨tx, tx.hash, signature⟩ pqSigner pqKey
      pqPublicKey between = (.ok ⟨tx, signature, pqSignature, pqPublicKey⟩, after) :=
    ClassicallySigned.attachPq_of_signed hpqSigned hsignature hkey
  simp only [signHybrid, bind, StateT.bind, hclassical]
  exact hattached

theorem Transaction.signFallback_of_signed {tx : Transaction}
    {signer : ClassicalSigner (StateM σ) Key} {key : Key} {signature : EcdsaSignature}
    (hsigned : signer.sign key tx.hash state = (.ok signature, after))
    (hshape : signature.WellFormed) :
    tx.signFallback signer key state = (.ok ⟨tx, signature, [], []⟩, after) := by
  have hclassical := signClassical_of_signed hsigned hshape
  simp only [signFallback, bind, StateT.bind, hclassical]
  rfl

namespace HybridVerifier

variable {verifier : HybridVerifier (StateM σ)} {signed : SignedTransaction}

/-- What the post-quantum check says of a transaction of the expected sender is the verdict. -/
theorem verify_of_recovered (hshape : signed.signature.WellFormed)
    (hrecover : (verifier.classical.recover signed.signingHash signed.signature state).1 =
      .ok (some verifier.expectedSender)) :
    ∃ after, (verifier.verify signed state).1 =
      (verifier.watched.checkPq signed.signingHash signed.pqSignature signed.pqPublicKey
        after).result.mapError .signer := by
  rcases hanswer : verifier.classical.recover signed.signingHash signed.signature state with
    ⟨answer, after⟩
  rw [hanswer] at hrecover
  dsimp only at hrecover
  subst hrecover
  rcases hchecked : verifier.watched.checkPq signed.signingHash signed.pqSignature
    signed.pqPublicKey after with ⟨calls, verdict, final⟩
  have hverdict := verify_of_signed (checkClassical_of_recovered hshape hanswer) hchecked
  refine ⟨after, ?_⟩
  rw [← unwatched_verify, Watched.unwatched, hverdict, hchecked]

theorem verify_classicalOnly (hshape : signed.signature.WellFormed)
    (hrecover : (verifier.classical.recover signed.signingHash signed.signature state).1 =
      .ok (some verifier.expectedSender))
    (hsignature : signed.pqSignature = []) (hkey : signed.pqPublicKey = []) :
    (verifier.verify signed state).1 =
      .ok (.accepted verifier.expectedSender .classicalOnly) := by
  obtain ⟨after, hverdict⟩ := verify_of_recovered hshape hrecover
  rw [hverdict, checkPq_absent hsignature hkey]
  rfl

theorem verify_hybrid (hshape : signed.signature.WellFormed)
    (hrecover : (verifier.classical.recover signed.signingHash signed.signature state).1 =
      .ok (some verifier.expectedSender))
    (hsignature : signed.pqSignature ≠ []) (hkey : signed.pqPublicKey ≠ [])
    (hholds : ∀ later, (verifier.pq.verify signed.pqPublicKey signed.signingHash
      signed.pqSignature later).1 = .ok true) :
    (verifier.verify signed state).1 = .ok (.accepted verifier.expectedSender .hybrid) := by
  obtain ⟨after, hverdict⟩ := verify_of_recovered hshape hrecover
  rw [hverdict, checkPq_present hsignature hkey rfl, hholds after]
  rfl

end HybridVerifier

/-- What is signed with a key, and with a post-quantum key whose signatures are accepted, is
accepted as hybrid from the account of the key once it has arrived; and what is signed with the key
alone is accepted as such, whatever the post-quantum verifier does. -/
theorem honest_transactions_accepted {signer : ClassicalSigner (StateM σ) Key}
    {recoverer : ClassicalVerifier (StateM σ)} {address : Key → Address}
    (hsigner : signer.RecoveredBy recoverer address) (tx : Transaction) (key : Key) (state : σ) :
    (∀ {PqKey : Type} (pqSigner : PqSigner (StateM σ) PqKey) (pqVerifier : PqVerifier (StateM σ))
      (pqKey : PqKey) (pqPublicKey : Bytes), pqSigner.MatchedBy pqVerifier pqKey pqPublicKey →
      ∃ signed after,
        tx.signHybrid signer key pqSigner pqKey pqPublicKey state = (.ok signed, after) ∧
        (signed.encode.length < lengthBound → ∀ later,
          (HybridVerifier.verifyBytes ⟨recoverer, pqVerifier, address key⟩ signed.encode later).1 =
            .ok (.accepted (address key) .hybrid))) ∧
    ∃ signed after, tx.signFallback signer key state = (.ok signed, after) ∧
      (signed.encode.length < lengthBound → ∀ (pqVerifier : PqVerifier (StateM σ)) later,
        (HybridVerifier.verifyBytes ⟨recoverer, pqVerifier, address key⟩ signed.encode later).1 =
          .ok (.accepted (address key) .classicalOnly)) := by
  obtain ⟨signature, between, hsigned, hshape, hrecover⟩ := hsigner key tx.hash state
  refine ⟨?_, ?_⟩
  · rintro PqKey pqSigner pqVerifier pqKey pqPublicKey ⟨hkey, hpq⟩
    obtain ⟨pqSignature, after, hpqSigned, hsignature, hholds⟩ := hpq tx.hash between
    refine ⟨⟨tx, signature, pqSignature, pqPublicKey⟩, after, ?_, ?_⟩
    · exact Transaction.signHybrid_of_signed hsigned hshape hpqSigned hsignature hkey
    · intro hlength later
      rw [HybridVerifier.verifyBytes_encode hshape hlength]
      exact HybridVerifier.verify_hybrid hshape (hrecover later) hsignature hkey hholds
  · refine ⟨⟨tx, signature, [], []⟩, between, ?_, ?_⟩
    · exact Transaction.signFallback_of_signed hsigned hshape
    · intro hlength pqVerifier later
      rw [HybridVerifier.verifyBytes_encode hshape hlength]
      exact HybridVerifier.verify_classicalOnly hshape (hrecover later) rfl rfl

/-- A hybrid transaction, and one past a post-quantum backend that is out of reach. A classical
signature names its account and its hash, a post-quantum one its key and its hash. -/
theorem honest_transactions_accepted_wide :
    let key : Address := ⟨.ofNat 20 7⟩
    let signer : ClassicalSigner (StateM Nat) Address :=
      ⟨fun key hash count => (.ok ⟨0, key.toNat, hash.toNat⟩, count + 1)⟩
    let recoverer : ClassicalVerifier (StateM Nat) := ⟨fun hash signature count =>
      (.ok (if signature.s = hash.toNat then some ⟨.ofNat 20 signature.r⟩ else none), count + 1)⟩
    let pqSigner : PqSigner (StateM Nat) Bytes :=
      ⟨fun count => (.ok ([1], [1]), count + 1),
        fun key hash count => (.ok (key ++ hash.bytes), count + 1)⟩
    let pqVerifier : PqVerifier (StateM Nat) := ⟨fun publicKey hash signature count =>
      (.ok (signature == publicKey ++ hash.bytes), count + 1)⟩
    let offline : PqVerifier (StateM Nat) :=
      ⟨fun _ _ _ count => (.error (.unavailable "offline"), count + 1)⟩
    let hash := wideTransaction.hash
    let hybrid : SignedTransaction :=
      ⟨wideTransaction, ⟨0, key.toNat, hash.toNat⟩, [1] ++ hash.bytes, [1]⟩
    let fallback : SignedTransaction := ⟨wideTransaction, ⟨0, key.toNat, hash.toNat⟩, [], []⟩
    signer.RecoveredBy recoverer id ∧ pqSigner.MatchedBy pqVerifier [1] [1] ∧
    wideTransaction.signHybrid signer key pqSigner [1] [1] 0 = (.ok hybrid, 2) ∧
    (HybridVerifier.verifyBytes ⟨recoverer, pqVerifier, key⟩ hybrid.encode 2).1 =
      .ok (.accepted key .hybrid) ∧
    wideTransaction.signFallback signer key 0 = (.ok fallback, 1) ∧
    (HybridVerifier.verifyBytes ⟨recoverer, offline, key⟩ fallback.encode 1).1 =
      .ok (.accepted key .classicalOnly) := by
  intro key signer recoverer pqSigner pqVerifier offline hash hybrid fallback
  have hshape : ∀ (key : Address) (hash : TxHash),
      EcdsaSignature.WellFormed ⟨0, key.toNat, hash.toNat⟩ := by
    intro key hash
    have hr : bitLength key.toNat ≤ 160 := bitLength_le_iff.mpr key.toNat_lt
    exact ⟨by simp, hr.trans (by decide), bitLength_le_iff.mpr hash.toNat_lt⟩
  have hsigner : signer.RecoveredBy recoverer id := by
    intro key hash state
    refine ⟨⟨0, key.toNat, hash.toNat⟩, state + 1, rfl, hshape key hash, fun later => ?_⟩
    simp only [recoverer, if_pos, FixedBytes.ofNat_toNat, id]
  have hmatched : pqSigner.MatchedBy pqVerifier [1] [1] := by
    refine ⟨by simp, fun hash state => ?_⟩
    exact ⟨[1] ++ hash.bytes, state + 1, rfl, by simp, fun later => by simp [pqVerifier]⟩
  have hhybrid : wideTransaction.signHybrid signer key pqSigner [1] [1] 0 = (.ok hybrid, 2) :=
    Transaction.signHybrid_of_signed rfl (hshape key hash) rfl (by simp) (by simp)
  have hfallback : wideTransaction.signFallback signer key 0 = (.ok fallback, 1) :=
    Transaction.signFallback_of_signed rfl (hshape key hash)
  obtain ⟨hboth, _, _, halone, honly⟩ :=
    honest_transactions_accepted hsigner wideTransaction key 0
  obtain ⟨_, _, hpair, haccepted⟩ := hboth pqSigner pqVerifier [1] [1] hmatched
  rw [hhybrid] at hpair
  cases hpair
  rw [hfallback] at halone
  cases halone
  exact ⟨hsigner, hmatched, hhybrid, haccepted (by decide +kernel) 2, hfallback,
    honly (by decide +kernel) offline 1⟩

end HybridTx
