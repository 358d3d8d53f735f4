import HybridTx.Proofs.Results
import HybridTx.Proofs.Signing.Watched

/-! The two steps of signing: which hash a signer is asked about, and what becomes of its answer. -/

namespace HybridTx

variable {σ Key : Type} {state after : σ} {key : Key} {calls : List (SignerCall Key)}

/-- A classically signed transaction is made of a well-formed signature that its signer gave for its
hash, and of nothing else. -/
theorem Transaction.signClassical_eq_ok_iff {tx : Transaction}
    {signer : ClassicalSigner (StateM σ) Key} {classical : ClassicallySigned} :
    tx.signClassical signer.watched key state = ⟨calls, .ok classical, after⟩ ↔
      ∃ signature : EcdsaSignature, signer.sign key tx.hash state = (.ok signature, after) ∧
        signature.WellFormed ∧ calls = [.classical key tx.hash (.ok signature)] ∧
        classical = ⟨tx, tx.hash, signature⟩ := by
  rcases hanswer : signer.sign key tx.hash state with ⟨answer, after'⟩
  have hseen : signer.watched.sign key tx.hash state =
      ⟨[.classical key tx.hash answer], answer, after'⟩ := watch_apply hanswer
  rw [signClassical, Watched.bind_apply hseen]
  cases answer with
  | error e =>
    constructor
    · intro h
      cases h
    · rintro ⟨signature, hsigned, -⟩
      cases hsigned
  | ok signature =>
    dsimp only
    split
    · next hshape =>
      constructor
      · intro h
        cases h
        exact ⟨signature, rfl, hshape, rfl, rfl⟩
      · rintro ⟨_, hsigned, -, rfl, rfl⟩
        cases hsigned
        rfl
    · next hshape =>
      constructor
      · intro h
        cases h
      · rintro ⟨_, hsigned, hshape', -⟩
        cases hsigned
        exact absurd hshape' hshape

namespace ClassicallySigned

variable {classical : ClassicallySigned} {signed : SignedTransaction}

theorem attachSignature_eq_ok_iff {pqSignature pqPublicKey : Bytes} :
    classical.attachSignature pqSignature pqPublicKey = .ok signed ↔
      pqSignature ≠ [] ∧ pqPublicKey ≠ [] ∧
        ⟨classical.transaction, classical.signature, pqSignature, pqPublicKey⟩ = signed := by
  rw [attachSignature, guard_eq_ok]
  simp [not_or, and_assoc]

/-- The post-quantum signer is asked about the hash that is kept. -/
theorem attachPq_eq_ok_iff {signer : PqSigner (StateM σ) Key} {pqPublicKey : Bytes} :
    classical.attachPq signer.watched key pqPublicKey state = ⟨calls, .ok signed, after⟩ ↔
      ∃ pqSignature, signer.sign key classical.hash state = (.ok pqSignature, after) ∧
        calls = [.pq key classical.hash (.ok pqSignature)] ∧
        classical.attachSignature pqSignature pqPublicKey = .ok signed := by
  rcases hanswer : signer.sign key classical.hash state with ⟨answer, after'⟩
  have hseen : signer.watched.sign key classical.hash state =
      ⟨[.pq key classical.hash answer], answer, after'⟩ := watch_apply hanswer
  rw [attachPq, Watched.bind_apply hseen]
  cases answer with
  | error e =>
    constructor
    · intro h
      cases h
    · rintro ⟨pqSignature, hsigned, -⟩
      cases hsigned
  | ok pqSignature =>
    constructor
    · intro h
      obtain ⟨hcalls, hattached, rfl⟩ := Observation.mk.inj h
      exact ⟨pqSignature, rfl, hcalls.symm, hattached⟩
    · rintro ⟨_, hsigned, rfl, hattached⟩
      cases hsigned
      rw [← hattached]
      rfl

end ClassicallySigned

end HybridTx
