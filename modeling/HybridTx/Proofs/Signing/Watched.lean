import HybridTx.Signing.Attach
import HybridTx.Signing.Verify

/-! Backends under watch. A computation with backends that share a state shows the calls it makes of
them, in order, with what it gives and the state it leaves. Watching changes none of this. -/

namespace HybridTx

/-- What is seen of a computation. -/
structure Observation (Call σ α : Type) where
  calls : List Call
  result : α
  state : σ

/-- A computation whose calls are seen. -/
def Watched (Call σ α : Type) : Type := σ → Observation Call σ α

variable {Call σ α β Key : Type}

/-- Of two computations in a row, the calls of the second follow those of the first. -/
instance : Monad (Watched Call σ) where
  pure a := fun state => ⟨[], a, state⟩
  bind first next := fun state =>
    let before := first state
    let after := next before.result before.state
    ⟨before.calls ++ after.calls, after.result, after.state⟩

namespace Watched

theorem pure_apply (a : α) (state : σ) : (pure a : Watched Call σ α) state = ⟨[], a, state⟩ := rfl

/-- How the second of two computations goes on is up to what was seen of the first. -/
theorem bind_apply {first : Watched Call σ α} {next : α → Watched Call σ β} {state after : σ}
    {calls : List Call} {a : α} (h : first state = ⟨calls, a, after⟩) :
    (first >>= next) state =
      ⟨calls ++ (next a after).calls, (next a after).result, (next a after).state⟩ := by
  change Observation.mk _ _ _ = _
  rw [h]

/-- What is made of a result shows in the result alone. -/
theorem map_apply (computation : Watched Call σ α) (f : α → β) (state : σ) :
    (computation >>= fun a => pure (f a)) state =
      ⟨(computation state).calls, f (computation state).result, (computation state).state⟩ := by
  let seen := computation state
  change Observation.mk (seen.calls ++ []) (f seen.result) seen.state = _
  rw [List.append_nil]

/-- The computation without its calls. -/
def unwatched (computation : Watched Call σ α) : StateM σ α := fun state =>
  ((computation state).result, (computation state).state)

theorem unwatched_bind (first : Watched Call σ α) (next : α → Watched Call σ β) :
    (first >>= next).unwatched = first.unwatched >>= fun a => (next a).unwatched := rfl

end Watched

/-- An action that is one call. The call tells the answer. -/
def watch (call : α → Call) (action : StateM σ α) : Watched Call σ α := fun state =>
  ⟨[call (action state).1], (action state).1, (action state).2⟩

theorem watch_apply {call : α → Call} {action : StateM σ α} {state after : σ} {answer : α}
    (h : action state = (answer, after)) :
    watch call action state = ⟨[call answer], answer, after⟩ := by
  rw [watch, h]

/-- A call of a backend that verifies. -/
inductive VerifierCall
  | recover (hash : TxHash) (signature : EcdsaSignature)
      (answer : Except SignerError (Option Address))
  | verify (publicKey : Bytes) (hash : TxHash) (signature : Bytes)
      (answer : Except SignerError Bool)

namespace HybridVerifier

/-- The verifier with both backends under watch. -/
def watched (verifier : HybridVerifier (StateM σ)) : HybridVerifier (Watched VerifierCall σ) where
  classical.recover hash signature :=
    watch (.recover hash signature) (verifier.classical.recover hash signature)
  pq.verify publicKey hash signature :=
    watch (.verify publicKey hash signature) (verifier.pq.verify publicKey hash signature)
  expectedSender := verifier.expectedSender

variable (verifier : HybridVerifier (StateM σ))

theorem unwatched_checkClassical (hash : TxHash) (signature : EcdsaSignature) :
    (verifier.watched.checkClassical hash signature).unwatched =
      verifier.checkClassical hash signature := by
  unfold checkClassical
  split
  · rw [Watched.unwatched_bind]
    apply bind_congr
    intro answer
    cases answer <;> rfl
  · rfl

theorem unwatched_checkPq (hash : TxHash) (signature publicKey : Bytes) :
    (verifier.watched.checkPq hash signature publicKey).unwatched =
      verifier.checkPq hash signature publicKey := by
  unfold checkPq
  split
  · rfl
  · rw [Watched.unwatched_bind]
    apply bind_congr
    intro answer
    obtain e | _ | _ := answer <;> rfl
  · rfl

/-- A verdict is the same under watch. -/
theorem unwatched_verify (signed : SignedTransaction) :
    (verifier.watched.verify signed).unwatched = verifier.verify signed := by
  unfold verify
  dsimp only
  rw [Watched.unwatched_bind, unwatched_checkClassical]
  apply bind_congr
  intro holds
  obtain e | _ | _ := holds
  · rfl
  · rfl
  · dsimp only
    rw [Watched.unwatched_bind, unwatched_checkPq]
    rfl

end HybridVerifier

/-- A call of a backend that signs. -/
inductive SignerCall (Key : Type)
  | classical (key : Key) (hash : TxHash) (answer : Except SignerError EcdsaSignature)
  | pq (key : Key) (hash : TxHash) (answer : Except SignerError Bytes)
  | pqKeypair (answer : Except SignerError (Key × Bytes))

/-- The signer under watch. -/
def ClassicalSigner.watched (signer : ClassicalSigner (StateM σ) Key) :
    ClassicalSigner (Watched (SignerCall Key) σ) Key where
  sign key hash := watch (.classical key hash) (signer.sign key hash)

/-- The signer under watch. -/
def PqSigner.watched (signer : PqSigner (StateM σ) Key) :
    PqSigner (Watched (SignerCall Key) σ) Key where
  generateKeypair := watch .pqKeypair signer.generateKeypair
  sign key hash := watch (.pq key hash) (signer.sign key hash)

/-- A classical signature is the same under watch. -/
theorem Transaction.unwatched_signClassical (tx : Transaction)
    (signer : ClassicalSigner (StateM σ) Key) (key : Key) :
    (tx.signClassical signer.watched key).unwatched = tx.signClassical signer key := by
  unfold signClassical
  dsimp only
  rw [Watched.unwatched_bind]
  apply bind_congr
  intro answer
  cases answer with
  | error e => rfl
  | ok signature =>
    dsimp only
    split <;> rfl

/-- A post-quantum signature is the same under watch. -/
theorem ClassicallySigned.unwatched_attachPq (classical : ClassicallySigned)
    (signer : PqSigner (StateM σ) Key) (key : Key) (pqPublicKey : Bytes) :
    (classical.attachPq signer.watched key pqPublicKey).unwatched =
      classical.attachPq signer key pqPublicKey := by
  unfold attachPq
  rw [Watched.unwatched_bind]
  apply bind_congr
  intro answer
  cases answer <;> rfl

end HybridTx
