import HybridTx.Proofs.Signing.Attachment
import HybridTx.Proofs.Transaction.Wire

/-! The lives of transactions. A run is a sequence of public operations, each on values that the run
has produced before, with signers that do what they like. Whatever the order of the operations,
hashes never go stale, signatures are well formed, and both signatures cover one hash. -/

namespace HybridTx

open Rlp

variable {σ Key : Type}

namespace Lifecycle

/-- What an operation gives. -/
inductive Product
  | draft (tx : Transaction)
  | classical (value : ClassicallySigned)
  | signed (value : SignedTransaction)
  | parts (tx : Transaction) (signature : EcdsaSignature) (pqSignature pqPublicKey : Bytes)
  | refusal (cause : TransactionError)

namespace Product

def ofClassical : Except TransactionError ClassicallySigned → Product
  | .ok value => .classical value
  | .error cause => .refusal cause

def ofSigned : Except TransactionError SignedTransaction → Product
  | .ok value => .signed value
  | .error cause => .refusal cause

theorem ofClassical_eq_classical {result : Except TransactionError ClassicallySigned}
    {value : ClassicallySigned} : ofClassical result = .classical value ↔ result = .ok value := by
  cases result <;> simp [ofClassical]

theorem ofClassical_ne_signed (result : Except TransactionError ClassicallySigned)
    (value : SignedTransaction) : ofClassical result ≠ .signed value := by
  cases result <;> simp [ofClassical]

theorem ofSigned_eq_signed {result : Except TransactionError SignedTransaction}
    {value : SignedTransaction} : ofSigned result = .signed value ↔ result = .ok value := by
  cases result <;> simp [ofSigned]

theorem ofSigned_ne_classical (result : Except TransactionError SignedTransaction)
    (value : ClassicallySigned) : ofSigned result ≠ .classical value := by
  cases result <;> simp [ofSigned]

/-- The transaction that may be changed and signed. -/
def draft? : Product → Option Transaction
  | .draft tx | .parts tx _ _ _ => some tx
  | _ => none

end Product

/-- A public operation, with all that it is given. The fields of a draft are open, so any edit is a
change. -/
inductive Operation (σ Key : Type)
  | build (tx : Transaction)
  | change (tx : Transaction) (edit : Transaction → Transaction)
  | sign (tx : Transaction) (signer : ClassicalSigner (StateM σ) Key) (key : Key)
  | attachPq (classical : ClassicallySigned) (signer : PqSigner (StateM σ) Key) (key : Key)
      (pqPublicKey : Bytes)
  | attachSignature (classical : ClassicallySigned) (pqSignature pqPublicKey : Bytes)
  | fallback (classical : ClassicallySigned)
  | decode (bytes : Bytes)
  | ofParts (tx : Transaction) (signature : EcdsaSignature) (pqSignature pqPublicKey : Bytes)
  | takeApart (signed : SignedTransaction)

/-- An operation that was performed, the calls of signers that it made, and what it gave. -/
structure Event (σ Key : Type) where
  operation : Operation σ Key
  calls : List (SignerCall Key)
  product : Product

namespace Operation

/-- Performs an operation, its signer under watch. -/
def perform : Operation σ Key → Watched (SignerCall Key) σ Product
  | build tx => pure (.draft tx)
  | change tx edit => pure (.draft (edit tx))
  | sign tx signer key => do return .ofClassical (← tx.signClassical signer.watched key)
  | attachPq classical signer key pqPublicKey => do
    return .ofSigned (← classical.attachPq signer.watched key pqPublicKey)
  | attachSignature classical pqSignature pqPublicKey =>
    pure (.ofSigned (classical.attachSignature pqSignature pqPublicKey))
  | fallback classical => pure (.signed classical.fallback)
  | decode bytes => pure (.ofSigned (SignedTransaction.decode bytes))
  | ofParts tx signature pqSignature pqPublicKey =>
    pure (.ofSigned (SignedTransaction.ofParts tx signature pqSignature pqPublicKey))
  | takeApart signed =>
    pure (.parts signed.transaction signed.signature signed.pqSignature signed.pqPublicKey)

/-- Only signing gives a classically signed transaction. -/
theorem perform_eq_classical {operation : Operation σ Key} {state after : σ}
    {calls : List (SignerCall Key)} {value : ClassicallySigned}
    (h : operation.perform state = ⟨calls, .classical value, after⟩) :
    ∃ tx signer key, operation = sign tx signer key ∧
      tx.signClassical signer.watched key state = ⟨calls, .ok value, after⟩ := by
  cases operation with
  | sign tx signer key =>
    rw [perform, Watched.map_apply] at h
    rcases hseen : tx.signClassical signer.watched key state with ⟨_, result, _⟩
    rw [hseen] at h
    obtain ⟨rfl, hproduct, rfl⟩ := Observation.mk.inj h
    obtain rfl := Product.ofClassical_eq_classical.mp hproduct
    exact ⟨tx, signer, key, rfl, hseen⟩
  | attachPq classical signer key pqPublicKey =>
    rw [perform, Watched.map_apply] at h
    exact absurd (Observation.mk.inj h).2.1 (Product.ofSigned_ne_classical _ value)
  | attachSignature | decode | ofParts =>
    rw [perform, Watched.pure_apply] at h
    exact absurd (Observation.mk.inj h).2.1 (Product.ofSigned_ne_classical _ value)
  | build | change | fallback | takeApart => cases h

theorem perform_attachPq_eq_signed {classical : ClassicallySigned}
    {signer : PqSigner (StateM σ) Key} {key : Key} {pqPublicKey : Bytes} {state after : σ}
    {calls : List (SignerCall Key)} {value : SignedTransaction}
    (h : (attachPq classical signer key pqPublicKey).perform state =
      ⟨calls, .signed value, after⟩) :
    classical.attachPq signer.watched key pqPublicKey state = ⟨calls, .ok value, after⟩ := by
  rw [perform, Watched.map_apply] at h
  rcases hseen : classical.attachPq signer.watched key pqPublicKey state with ⟨_, result, _⟩
  rw [hseen] at h
  obtain ⟨rfl, hproduct, rfl⟩ := Observation.mk.inj h
  obtain rfl := Product.ofSigned_eq_signed.mp hproduct
  rfl

/-- There are five ways to a signed transaction. -/
theorem perform_eq_signed {operation : Operation σ Key} {state after : σ}
    {calls : List (SignerCall Key)} {value : SignedTransaction}
    (h : operation.perform state = ⟨calls, .signed value, after⟩) :
    (∃ classical signer key pqPublicKey, operation = attachPq classical signer key pqPublicKey ∧
      classical.attachPq signer.watched key pqPublicKey state = ⟨calls, .ok value, after⟩) ∨
    (∃ classical pqSignature pqPublicKey,
      operation = attachSignature classical pqSignature pqPublicKey ∧
      classical.attachSignature pqSignature pqPublicKey = .ok value) ∨
    (∃ classical, operation = fallback classical ∧ classical.fallback = value) ∨
    (∃ bytes, operation = decode bytes ∧ SignedTransaction.decode bytes = .ok value) ∨
    ∃ tx signature pqSignature pqPublicKey,
      operation = ofParts tx signature pqSignature pqPublicKey ∧
      SignedTransaction.ofParts tx signature pqSignature pqPublicKey = .ok value := by
  cases operation with
  | sign tx signer key =>
    rw [perform, Watched.map_apply] at h
    exact absurd (Observation.mk.inj h).2.1 (Product.ofClassical_ne_signed _ value)
  | attachPq classical signer key pqPublicKey =>
    exact .inl ⟨classical, signer, key, pqPublicKey, rfl, perform_attachPq_eq_signed h⟩
  | attachSignature classical pqSignature pqPublicKey =>
    have hresult := Product.ofSigned_eq_signed.mp (Observation.mk.inj h).2.1
    exact .inr (.inl ⟨classical, pqSignature, pqPublicKey, rfl, hresult⟩)
  | fallback classical =>
    cases h
    exact .inr (.inr (.inl ⟨classical, rfl, rfl⟩))
  | decode bytes =>
    have hresult := Product.ofSigned_eq_signed.mp (Observation.mk.inj h).2.1
    exact .inr (.inr (.inr (.inl ⟨bytes, rfl, hresult⟩)))
  | ofParts tx signature pqSignature pqPublicKey =>
    have hresult := Product.ofSigned_eq_signed.mp (Observation.mk.inj h).2.1
    exact .inr (.inr (.inr (.inr ⟨tx, signature, pqSignature, pqPublicKey, rfl, hresult⟩)))
  | build | change | takeApart => cases h

/-- The values that an operation works on have been produced. Bytes and parts may come from
anywhere. -/
def Available (history : List (Event σ Key)) : Operation σ Key → Prop
  | change tx _ | sign tx _ _ => ∃ event ∈ history, event.product.draft? = some tx
  | attachPq classical _ _ _ | attachSignature classical _ _ | fallback classical =>
    ∃ event ∈ history, event.product = .classical classical
  | takeApart signed => ∃ event ∈ history, event.product = .signed signed
  | build _ | decode _ | ofParts _ _ _ _ => True

end Operation

/-- `Run history state`: the operations of `history` were performed one after another, and left the
signers in `state`. -/
inductive Run : List (Event σ Key) → σ → Prop
  | start (state : σ) : Run [] state
  | step {history : List (Event σ Key)} {state after : σ} {operation : Operation σ Key}
      {calls : List (SignerCall Key)} {product : Product} :
      Run history state → operation.Available history →
      operation.perform state = ⟨calls, product, after⟩ →
      Run (history ++ [⟨operation, calls, product⟩]) after

/-- What an event shows is an operation of the run, performed on what was there before it. -/
theorem Run.performed {history : List (Event σ Key)} {state : σ} (hrun : Run history state)
    {event : Event σ Key} (hevent : event ∈ history) :
    ∃ earlier before after, Run earlier before ∧ event.operation.Available earlier ∧
      event.operation.perform before = ⟨event.calls, event.product, after⟩ := by
  induction hrun with
  | start state => cases hevent
  | @step history before after operation calls product hrun havailable hperform ih =>
    rcases List.mem_append.mp hevent with hearlier | hlast
    · exact ih hearlier
    · obtain rfl := List.mem_singleton.mp hlast
      exact ⟨history, before, after, hrun, havailable, hperform⟩

/-- What no operation may break: a kept hash is the hash of its transaction, and signatures are well
formed. -/
def Product.Intact : Product → Prop
  | classical value => value.hash = value.transaction.hash ∧ value.signature.WellFormed
  | signed value => value.signature.WellFormed
  | _ => True

/-- An operation on intact values gives an intact one. -/
theorem Operation.intact {history : List (Event σ Key)} {operation : Operation σ Key}
    {state after : σ} {calls : List (SignerCall Key)} {product : Product}
    (hintact : ∀ event ∈ history, event.product.Intact)
    (havailable : operation.Available history)
    (hperform : operation.perform state = ⟨calls, product, after⟩) : product.Intact := by
  have hsource : ∀ classical, (∃ event ∈ history, event.product = .classical classical) →
      (Product.classical classical).Intact := by
    rintro classical ⟨event, hevent, hproduct⟩
    rw [← hproduct]
    exact hintact event hevent
  cases product with
  | classical value =>
    obtain ⟨tx, signer, key, rfl, hsigned⟩ := perform_eq_classical hperform
    obtain ⟨signature, -, hshape, -, rfl⟩ := Transaction.signClassical_eq_ok_iff.mp hsigned
    exact ⟨rfl, hshape⟩
  | signed value =>
    obtain ⟨classical, signer, key, pqPublicKey, rfl, hattach⟩ |
      ⟨classical, pqSignature, pqPublicKey, rfl, hattach⟩ | ⟨classical, rfl, rfl⟩ |
      ⟨bytes, rfl, hdecode⟩ | ⟨tx, signature, pqSignature, pqPublicKey, rfl, hparts⟩ :=
      perform_eq_signed hperform
    · obtain ⟨pqSignature, -, -, hsigned⟩ := ClassicallySigned.attachPq_eq_ok_iff.mp hattach
      obtain ⟨-, -, rfl⟩ := ClassicallySigned.attachSignature_eq_ok_iff.mp hsigned
      exact (hsource classical havailable).2
    · obtain ⟨-, -, rfl⟩ := ClassicallySigned.attachSignature_eq_ok_iff.mp hattach
      exact (hsource classical havailable).2
    · exact (hsource classical havailable).2
    · exact (SignedTransaction.decode_eq_ok_iff.mp hdecode).1
    · obtain ⟨hshape, rfl⟩ := SignedTransaction.ofParts_eq_ok_iff.mp hparts
      exact hshape
  | draft | parts | refusal => trivial

/-- All that a run produces is intact. -/
theorem Run.intact {history : List (Event σ Key)} {state : σ} (hrun : Run history state) :
    ∀ event ∈ history, event.product.Intact := by
  induction hrun with
  | start state => simp
  | step hrun havailable hperform ih =>
    intro event hevent
    rcases List.mem_append.mp hevent with hearlier | hlast
    · exact ih event hearlier
    · obtain rfl := List.mem_singleton.mp hlast
      exact Operation.intact ih havailable hperform

/-- Whatever operations are performed, in whatever order and with whatever signers: what they make
keeps the hash of its own fields and a well-formed signature of it, a post-quantum signature is
attached whole or not at all, and it is one of that same hash, before sending and after arrival. -/
theorem every_product_sound {history : List (Event σ Key)} {state : σ} (hrun : Run history state)
    {event : Event σ Key} (hevent : event ∈ history) :
    (∀ classical, event.product = .classical classical →
      classical.hash = classical.transaction.hash ∧ classical.signature.WellFormed ∧
      ∃ tx signer key, event.operation = .sign tx signer key ∧ classical.transaction = tx ∧
        event.calls = [.classical key classical.hash (.ok classical.signature)]) ∧
    ∀ signed, event.product = .signed signed →
      signed.signature.WellFormed ∧
      (signed.encode.length < lengthBound →
        SignedTransaction.decode signed.encode = .ok signed) ∧
      (∀ classical signer key pqPublicKey,
        event.operation = .attachPq classical signer key pqPublicKey →
        signed.pqSignature ≠ [] ∧ signed.pqPublicKey ≠ [] ∧
        event.calls = [.pq key signed.signingHash (.ok signed.pqSignature)] ∧
        (signed.encode.length < lengthBound →
          ∃ received, SignedTransaction.decode signed.encode = .ok received ∧
            event.calls = [.pq key received.signingHash (.ok received.pqSignature)])) ∧
      (∀ classical pqSignature pqPublicKey,
        event.operation = .attachSignature classical pqSignature pqPublicKey →
        signed.pqSignature ≠ [] ∧ signed.pqPublicKey ≠ []) ∧
      ∀ classical, event.operation = .fallback classical →
        signed.pqSignature = [] ∧ signed.pqPublicKey = [] := by
  obtain ⟨earlier, before, after, hearlier, havailable, hperform⟩ := hrun.performed hevent
  obtain ⟨operation, calls, product⟩ := event
  dsimp only at havailable hperform ⊢
  have hintact := hrun.intact _ hevent
  refine ⟨?_, ?_⟩
  · rintro classical rfl
    obtain ⟨tx, signer, key, rfl, hsigned⟩ := Operation.perform_eq_classical hperform
    obtain ⟨signature, -, hshape, hcalls, rfl⟩ := Transaction.signClassical_eq_ok_iff.mp hsigned
    exact ⟨rfl, hshape, tx, signer, key, rfl, rfl, hcalls⟩
  · rintro signed rfl
    have hdecode : signed.encode.length < lengthBound →
        SignedTransaction.decode signed.encode = .ok signed :=
      fun hlength => SignedTransaction.decode_encode hintact hlength
    refine ⟨hintact, hdecode, ?_, ?_, ?_⟩
    · rintro classical signer key pqPublicKey rfl
      obtain ⟨source, hsource, hproduct⟩ := havailable
      have hfresh := hearlier.intact source hsource
      rw [hproduct] at hfresh
      have hattach := Operation.perform_attachPq_eq_signed hperform
      obtain ⟨pqSignature, -, rfl, hsigned⟩ := ClassicallySigned.attachPq_eq_ok_iff.mp hattach
      obtain ⟨hsignature, hkey, rfl⟩ := ClassicallySigned.attachSignature_eq_ok_iff.mp hsigned
      have hcalls : [SignerCall.pq key classical.hash (.ok pqSignature)] =
          [.pq key classical.transaction.hash (.ok pqSignature)] := by rw [hfresh.1]
      exact ⟨hsignature, hkey, hcalls, fun hlength => ⟨_, hdecode hlength, hcalls⟩⟩
    · rintro classical pqSignature pqPublicKey rfl
      have hattach := Product.ofSigned_eq_signed.mp (Observation.mk.inj hperform).2.1
      obtain ⟨hsignature, hkey, rfl⟩ := ClassicallySigned.attachSignature_eq_ok_iff.mp hattach
      exact ⟨hsignature, hkey⟩
    · rintro classical rfl
      cases hperform
      exact ⟨rfl, rfl⟩

/-- A transaction is built, signed, and completed with a post-quantum signature. -/
theorem every_product_sound_hybrid :
    let signature : EcdsaSignature := ⟨1, 2 ^ 256 - 1, 0⟩
    let classical : ClassicallySigned := ⟨wideTransaction, wideTransaction.hash, signature⟩
    let signed : SignedTransaction := ⟨wideTransaction, signature, [1, 2], [3]⟩
    let signer : ClassicalSigner (StateM Nat) Unit := ⟨fun _ _ count => (.ok signature, count + 1)⟩
    let pqSigner : PqSigner (StateM Nat) Unit :=
      ⟨fun count => (.ok ((), [3]), count + 1), fun _ _ count => (.ok [1, 2], count + 1)⟩
    let built : Event Nat Unit := ⟨.build wideTransaction, [], .draft wideTransaction⟩
    let attested : Event Nat Unit :=
      ⟨.sign wideTransaction signer (), [.classical () wideTransaction.hash (.ok signature)],
        .classical classical⟩
    let completed : Event Nat Unit :=
      ⟨.attachPq classical pqSigner () [3], [.pq () wideTransaction.hash (.ok [1, 2])],
        .signed signed⟩
    Run [built, attested, completed] 2 ∧ signed.encode.length < lengthBound ∧
      SignedTransaction.decode signed.encode = .ok signed ∧
      completed.calls = [.pq () signed.signingHash (.ok signed.pqSignature)] := by
  intro signature classical signed signer pqSigner built attested completed
  have hbuilt : Run [built] 0 := Run.step (.start 0) trivial rfl
  have hsigned : wideTransaction.signClassical signer.watched () 0 =
      ⟨attested.calls, .ok classical, 1⟩ :=
    Transaction.signClassical_eq_ok_iff.mpr ⟨signature, rfl, by decide +kernel, rfl, rfl⟩
  have hattested : Run [built, attested] 1 := by
    refine Run.step hbuilt ⟨built, by simp, rfl⟩ ?_
    rw [Operation.perform, Watched.map_apply, hsigned]
    rfl
  have hrun : Run [built, attested, completed] 2 :=
    Run.step hattested ⟨attested, by simp, rfl⟩ rfl
  have hlength : signed.encode.length < lengthBound := by decide +kernel
  obtain ⟨-, hdecode, hattached, -⟩ :=
    (every_product_sound hrun (by simp : completed ∈ [built, attested, completed])).2 signed rfl
  exact ⟨hrun, hlength, hdecode hlength, (hattached classical pqSigner () [3] rfl).2.2.1⟩

end Lifecycle

end HybridTx
