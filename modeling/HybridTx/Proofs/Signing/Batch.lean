import Mathlib.Data.List.OfFn
import Mathlib.Logic.Equiv.Defs
import HybridTx.Proofs.Signing.Additivity

/-! Several transactions in one batch. A batch is its transactions verified one after another, up to
the first failure of a backend. What is rejected on the way is a verdict like any other. -/

namespace HybridTx

variable {Call σ : Type}

namespace Watched

theorem bind_assoc_apply {α β γ : Type} (first : Watched Call σ α) (next : α → Watched Call σ β)
    (last : β → Watched Call σ γ) (state : σ) :
    (first >>= next >>= last) state = (first >>= fun a => next a >>= last) state := by
  let before := first state
  let between := next before.result before.state
  let after := last between.result between.state
  change Observation.mk ((before.calls ++ between.calls) ++ after.calls) after.result after.state =
    ⟨before.calls ++ (between.calls ++ after.calls), after.result, after.state⟩
  rw [List.append_assoc]

end Watched

instance : LawfulMonad (Watched Call σ) :=
  .mk' _ (fun _ => funext fun state => Watched.map_apply _ id state) (fun _ _ => rfl)
    fun first next last => funext fun state => Watched.bind_assoc_apply first next last state

/-- The answers of a post-quantum backend are those of a function. -/
def PqVerifier.Computes (verifier : PqVerifier (StateM σ))
    (opinion : Bytes → TxHash → Bytes → Except SignerError Bool) : Prop :=
  ∀ publicKey hash signature state,
    (verifier.verify publicKey hash signature state).1 = opinion publicKey hash signature

namespace HybridVerifier

/-- Transactions verified one after another, each where the one before it left the backends, and
whatever came of that one. -/
def verifyEach {m : Type → Type} [Monad m] (verifier : HybridVerifier m)
    (part : List SignedTransaction) : m (List (Except TransactionError Verdict)) :=
  part.mapM verifier.verify

section General

variable {verifier : HybridVerifier (Watched Call σ)} {signed : SignedTransaction}
  {before rest : List SignedTransaction} {state after : σ} {calls : List Call}
  {verdicts : List Verdict} {e : TransactionError}

theorem verifyEach_cons {result : Except TransactionError Verdict}
    (h : verifier.verify signed state = ⟨calls, result, after⟩) :
    let seen := verifier.verifyEach rest after
    verifier.verifyEach (signed :: rest) state =
      ⟨calls ++ seen.calls, result :: seen.result, seen.state⟩ := by
  intro seen
  rw [verifyEach, List.mapM_cons, Watched.bind_apply h]
  change Observation.mk (calls ++ (seen.calls ++ [])) (result :: seen.result) seen.state = _
  rw [List.append_nil]

theorem length_verifyEach (verifier : HybridVerifier (Watched Call σ))
    (part : List SignedTransaction) (state : σ) :
    (verifier.verifyEach part state).result.length = part.length := by
  induction part generalizing state with
  | nil => rfl
  | cons signed rest ih =>
    rw [verifyEach_cons rfl]
    exact congrArg (· + 1) (ih _)

theorem verifyEach_getElem? (verifier : HybridVerifier (Watched Call σ))
    (before rest : List SignedTransaction) (signed : SignedTransaction) (state : σ) :
    (verifier.verifyEach (before ++ signed :: rest) state).result[before.length]? =
      some (verifier.verify signed (verifier.verifyEach before state).state).result := by
  induction before generalizing state with
  | nil =>
    rw [List.nil_append, verifyEach_cons rfl]
    rfl
  | cons first before ih =>
    rw [List.cons_append, verifyEach_cons rfl, verifyEach_cons rfl]
    exact ih _

theorem verifyAll_cons_of_error (h : verifier.verify signed state = ⟨calls, .error e, after⟩) :
    verifier.verifyAll (signed :: rest) state = ⟨calls, .error e, after⟩ := by
  rw [verifyAll, Watched.bind_apply h]
  change Observation.mk (calls ++ []) (Except.error e) after = _
  rw [List.append_nil]

/-- Any verdict is the first of the batch, and the rest starts where it left the backends. -/
theorem verifyAll_cons_of_ok {verdict : Verdict}
    (h : verifier.verify signed state = ⟨calls, .ok verdict, after⟩) :
    let seen := verifier.verifyAll rest after
    verifier.verifyAll (signed :: rest) state =
      ⟨calls ++ seen.calls, seen.result.map (verdict :: ·), seen.state⟩ := by
  intro seen
  rw [verifyAll, Watched.bind_apply h]
  change Observation.mk (calls ++ (seen.calls ++ [])) (seen.result.map (verdict :: ·)) seen.state =
    _
  rw [List.append_nil]

/-- The part of a batch that has verdicts hands the state of the backends on to the other part, and
nothing else. -/
theorem verifyAll_append_of_ok
    (h : (verifier.verifyEach before state).result = verdicts.map .ok) :
    let seen := verifier.verifyEach before state
    let others := verifier.verifyAll rest seen.state
    verifier.verifyAll (before ++ rest) state =
      ⟨seen.calls ++ others.calls, others.result.map (verdicts ++ ·), others.state⟩ := by
  induction before generalizing state verdicts with
  | nil =>
    intro seen others
    obtain rfl := List.map_eq_nil_iff.mp h.symm
    have hsame : others.result.map ([] ++ ·) = others.result := by
      cases others.result <;> rfl
    rw [hsame]
    rfl
  | cons signed before ih =>
    rcases hsigned : verifier.verify signed state with ⟨first, result, next⟩
    rw [verifyEach_cons hsigned] at h ⊢
    intro seen others
    obtain ⟨verdict, verdicts, rfl, rfl, hbefore⟩ := List.map_eq_cons_iff.mp h.symm
    have hmap : (others.result.map (verdicts ++ ·)).map (verdict :: ·) =
        others.result.map (verdict :: verdicts ++ ·) := by
      cases others.result <;> rfl
    rw [List.cons_append, verifyAll_cons_of_ok hsigned, ih hbefore.symm, ← hmap]
    simp only [seen, others, List.append_assoc]

theorem verifyAll_of_ok {queue : List SignedTransaction}
    (h : (verifier.verifyEach queue state).result = verdicts.map .ok) :
    let seen := verifier.verifyEach queue state
    verifier.verifyAll queue state = ⟨seen.calls, .ok verdicts, seen.state⟩ := by
  have hall := @verifyAll_append_of_ok _ _ verifier queue [] state verdicts h
  simpa [verifyAll, Watched.pure_apply, Except.map] using hall

theorem verifyAll_of_error {failing : SignedTransaction}
    (hbefore : (verifier.verifyEach before state).result = verdicts.map .ok)
    (hfailing : (verifier.verify failing (verifier.verifyEach before state).state).result =
      .error e) :
    let seen := verifier.verifyEach before state
    let last := verifier.verify failing seen.state
    verifier.verifyAll (before ++ failing :: rest) state =
      ⟨seen.calls ++ last.calls, .error e, last.state⟩ := by
  intro seen last
  have hlast : last = ⟨last.calls, .error e, last.state⟩ :=
    congrArg (Observation.mk last.calls · last.state) hfailing
  rw [verifyAll_append_of_ok hbefore, verifyAll_cons_of_error hlast]
  rfl

/-- Verified one after another, transactions all have verdicts, or there is one that is the first to
fail. -/
theorem verifyEach_cases (verifier : HybridVerifier (Watched Call σ))
    (queue : List SignedTransaction) (state : σ) :
    (∃ verdicts : List Verdict, (verifier.verifyEach queue state).result = verdicts.map .ok) ∨
      ∃ before failing rest, ∃ (verdicts : List Verdict) (e : TransactionError),
        queue = before ++ failing :: rest ∧
        (verifier.verifyEach before state).result = verdicts.map .ok ∧
        (verifier.verify failing (verifier.verifyEach before state).state).result = .error e := by
  induction queue generalizing state with
  | nil => exact .inl ⟨[], rfl⟩
  | cons signed queue ih =>
    rcases hsigned : verifier.verify signed state with ⟨calls, e | verdict, next⟩
    · exact .inr ⟨[], signed, queue, [], e, rfl, rfl, congrArg Observation.result hsigned⟩
    · rw [verifyEach_cons hsigned]
      obtain ⟨verdicts, hrest⟩ | ⟨before, failing, rest, verdicts, e, rfl, hbefore, hfailing⟩ :=
        ih next
      · exact .inl ⟨verdict :: verdicts, congrArg (.ok verdict :: ·) hrest⟩
      · refine .inr ⟨signed :: before, failing, rest, verdict :: verdicts, e, rfl, ?_⟩
        rw [verifyEach_cons hsigned]
        exact ⟨congrArg (.ok verdict :: ·) hbefore, hfailing⟩

theorem verifyAll_eq_ok_iff {queue : List SignedTransaction} :
    (verifier.verifyAll queue state).result = .ok verdicts ↔
      (verifier.verifyEach queue state).result = verdicts.map .ok := by
  constructor
  · intro hbatch
    obtain ⟨told, htold⟩ | ⟨before, failing, rest, told, e, rfl, hbefore, hfailing⟩ :=
      verifyEach_cases verifier queue state
    · rw [verifyAll_of_ok htold] at hbatch
      rw [← Except.ok.inj hbatch]
      exact htold
    · rw [verifyAll_of_error hbefore hfailing] at hbatch
      cases hbatch
  · intro h
    rw [verifyAll_of_ok h]

theorem verifyAll_eq_error_iff {queue : List SignedTransaction} :
    (verifier.verifyAll queue state).result = .error e ↔
      ∃ before failing rest, ∃ verdicts : List Verdict, queue = before ++ failing :: rest ∧
        (verifier.verifyEach before state).result = verdicts.map .ok ∧
        (verifier.verify failing (verifier.verifyEach before state).state).result = .error e := by
  constructor
  · intro hbatch
    obtain ⟨told, htold⟩ | ⟨before, failing, rest, told, e', rfl, hbefore, hfailing⟩ :=
      verifyEach_cases verifier queue state
    · rw [verifyAll_of_ok htold] at hbatch
      cases hbatch
    · rw [verifyAll_of_error hbefore hfailing] at hbatch
      obtain rfl := Except.error.inj hbatch
      exact ⟨before, failing, rest, told, rfl, hbefore, hfailing⟩
  · rintro ⟨before, failing, rest, told, rfl, hbefore, hfailing⟩
    rw [verifyAll_of_error hbefore hfailing]

end General

theorem unwatched_verifyAll (verifier : HybridVerifier (StateM σ))
    (queue : List SignedTransaction) :
    (verifier.watched.verifyAll queue).unwatched = verifier.verifyAll queue := by
  induction queue with
  | nil => rfl
  | cons signed rest ih =>
    rw [verifyAll, verifyAll, Watched.unwatched_bind, unwatched_verify]
    apply bind_congr
    intro result
    cases result with
    | error e => rfl
    | ok verdict =>
      dsimp only
      rw [Watched.unwatched_bind, ih]
      rfl

/-- Backends that answer by functions and do not fail have one verdict on a transaction, whatever
their state. -/
theorem exists_verdict_of_computes {verifier : HybridVerifier (StateM σ)}
    {recover : TxHash → EcdsaSignature → Option Address} {opinion : Bytes → TxHash → Bytes → Bool}
    (hrecover : verifier.classical.Computes fun hash signature => .ok (recover hash signature))
    (hopinion : verifier.pq.Computes fun key hash signature => .ok (opinion key hash signature))
    (signed : SignedTransaction) :
    ∃ verdict, ∀ state, (verifier.watched.verify signed state).result = .ok verdict := by
  by_cases hshape : signed.signature.WellFormed
  · by_cases hsender : recover signed.signingHash signed.signature = some verifier.expectedSender
    · have hpair : ∃ verdict, ∀ state, (verifier.watched.checkPq signed.signingHash
          signed.pqSignature signed.pqPublicKey state).result = .ok verdict := by
        obtain hhalf | ⟨hsignature, hkey⟩ | ⟨hsignature, hkey⟩ :=
          pair_cases signed.pqSignature signed.pqPublicKey
        · exact ⟨_, fun state => congrArg Observation.result (checkPq_half hhalf)⟩
        · exact ⟨_, fun state => congrArg Observation.result (checkPq_absent hsignature hkey)⟩
        · refine ⟨if opinion signed.pqPublicKey signed.signingHash signed.pqSignature then
            .accepted verifier.expectedSender .hybrid else .rejected .pqSignature, fun state => ?_⟩
          rw [checkPq_present hsignature hkey rfl, hopinion]
          rfl
      obtain ⟨verdict, hverdict⟩ := hpair
      refine ⟨verdict, fun state => ?_⟩
      obtain ⟨between, hseen⟩ :=
        verify_of_recovered_watched hshape hrecover (congrArg Except.ok hsender) state
      rw [hseen, hverdict]
      rfl
    · refine ⟨.rejected .classicalSignature, fun state => ?_⟩
      have hother : Except.ok (recover signed.signingHash signed.signature) ≠
          (.ok (some verifier.expectedSender) : Except SignerError _) :=
        fun h => hsender (Except.ok.inj h)
      obtain ⟨after, hseen⟩ := verify_of_not_recovered hshape hrecover hother state
      rw [hseen]
      rfl
  · refine ⟨.rejected .classicalSignature, fun state => ?_⟩
    rw [verify_of_not_signed (checkClassical_of_not_wellFormed hshape)]

/-- When a transaction has one verdict in every state, a batch gives each its own. -/
theorem verifyAll_eq_map {verifier : HybridVerifier (Watched Call σ)}
    {verdict : SignedTransaction → Verdict}
    (hverdict : ∀ signed state, (verifier.verify signed state).result = .ok (verdict signed))
    (queue : List SignedTransaction) (state : σ) :
    (verifier.verifyAll queue state).result = .ok (queue.map verdict) := by
  induction queue generalizing state with
  | nil => rfl
  | cons signed rest ih =>
    rcases hsigned : verifier.verify signed state with ⟨calls, result, after⟩
    have hresult := hverdict signed state
    rw [hsigned] at hresult
    subst hresult
    rw [verifyAll_cons_of_ok hsigned, ih]
    rfl

/-- A batch is its transactions one after another, for backends that answer anything, fail or keep
state: it gives all verdicts in order, or the error of the first transaction that fails, after the
calls up to that one. Where the backends are functions the order does not matter. -/
theorem batch_is_each_in_turn (verifier : HybridVerifier (StateM σ))
    (queue : List SignedTransaction) (state : σ) :
    let verify := verifier.watched.verify
    let each := verifier.watched.verifyEach
    let batch := verifier.watched.verifyAll queue state
    verifier.verifyAll queue state = (batch.result, batch.state) ∧
    (∀ verdicts,
      (batch.result = .ok verdicts ↔ (each queue state).result = verdicts.map .ok) ∧
      (batch.result = .ok verdicts →
        batch = ⟨(each queue state).calls, .ok verdicts, (each queue state).state⟩ ∧
        verdicts.length = queue.length ∧
        ∀ before signed rest, queue = before ++ signed :: rest →
          ∃ verdict, verdicts[before.length]? = some verdict ∧
            (verify signed (each before state).state).result = .ok verdict)) ∧
    (∀ e, batch.result = .error e ↔ ∃ before failing rest, ∃ verdicts : List Verdict,
      queue = before ++ failing :: rest ∧ (each before state).result = verdicts.map .ok ∧
        (verify failing (each before state).state).result = .error e) ∧
    (∀ before failing rest (verdicts : List Verdict) e, queue = before ++ failing :: rest →
      let seen := each before state
      let last := verify failing seen.state
      seen.result = verdicts.map .ok → last.result = .error e →
        batch = ⟨seen.calls ++ last.calls, .error e, last.state⟩) ∧
    (∀ before rest (verdicts : List Verdict), queue = before ++ rest →
      let seen := each before state
      let others := verifier.watched.verifyAll rest seen.state
      seen.result = verdicts.map .ok →
        batch = ⟨seen.calls ++ others.calls, others.result.map (verdicts ++ ·), others.state⟩) ∧
    ∀ (recover : TxHash → EcdsaSignature → Option Address)
      (opinion : Bytes → TxHash → Bytes → Bool),
      verifier.classical.Computes (fun hash signature => .ok (recover hash signature)) →
      verifier.pq.Computes (fun key hash signature => .ok (opinion key hash signature)) →
      ∀ (size : Nat) (txs : Fin size → SignedTransaction), ∃ verdicts : Fin size → Verdict,
        ∀ (order : Equiv.Perm (Fin size)) later,
          (verifier.verifyAll (List.ofFn (txs ∘ order)) later).1 =
            .ok (List.ofFn (verdicts ∘ order)) := by
  intro verify each batch
  refine ⟨?_, ?_, ?_, ?_, ?_, ?_⟩
  · rw [← unwatched_verifyAll]
    rfl
  · intro verdicts
    refine ⟨verifyAll_eq_ok_iff, fun hbatch => ?_⟩
    have hverdicts := verifyAll_eq_ok_iff.mp hbatch
    refine ⟨verifyAll_of_ok hverdicts, ?_, ?_⟩
    · have hlength := length_verifyEach verifier.watched queue state
      rwa [hverdicts, List.length_map] at hlength
    · rintro before signed rest rfl
      have hplace := verifyEach_getElem? verifier.watched before rest signed state
      rw [hverdicts, List.getElem?_map] at hplace
      obtain ⟨verdict, hverdict, hresult⟩ := Option.map_eq_some_iff.mp hplace
      exact ⟨verdict, hverdict, hresult.symm⟩
  · exact fun e => verifyAll_eq_error_iff
  · rintro before failing rest verdicts e rfl seen last hbefore hfailing
    exact verifyAll_of_error hbefore hfailing
  · rintro before rest verdicts rfl seen others hbefore
    exact verifyAll_append_of_ok hbefore
  · intro recover opinion hrecover hopinion size txs
    choose verdict hverdict using exists_verdict_of_computes hrecover hopinion
    refine ⟨verdict ∘ txs, fun order later => ?_⟩
    rw [← unwatched_verifyAll]
    change (verifier.watched.verifyAll _ later).result = _
    rw [verifyAll_eq_map hverdict, List.map_ofFn]
    rfl

/-- Of four transactions the first is rejected unseen, the second is accepted, the third meets a
backend that has gone out of reach, and the last is not looked at. -/
theorem batch_is_each_in_turn_offline :
    let verifier : HybridVerifier (StateM Nat) :=
      ⟨⟨fun _ _ count =>
          (if count = 0 then .ok (some .zero) else .error (.unavailable "offline"), count + 1)⟩,
        ⟨fun _ _ _ count => (.ok true, count + 1)⟩, .zero⟩
    let odd : SignedTransaction := ⟨{}, ⟨2, 7, 9⟩, [], []⟩
    let plain : SignedTransaction := ⟨{}, ⟨1, 7, 9⟩, [], []⟩
    let accepted : Verdict := .accepted .zero .classicalOnly
    (verifier.watched.verifyEach [odd, plain] 0).result =
        [.rejected .classicalSignature, accepted].map .ok ∧
      verifier.watched.verifyAll [odd, plain, plain, odd] 0 =
        ⟨[.recover plain.signingHash ⟨1, 7, 9⟩ (.ok (some .zero)),
            .recover plain.signingHash ⟨1, 7, 9⟩ (.error (.unavailable "offline"))],
          .error (.signer (.unavailable "offline")), 2⟩ := by
  intro verifier odd plain accepted
  have hodd : verifier.watched.verify odd 0 = ⟨[], .ok (.rejected .classicalSignature), 0⟩ :=
    verify_of_not_signed (checkClassical_of_not_wellFormed (by decide +kernel))
  have hplain : verifier.watched.verify plain 0 =
      ⟨[.recover plain.signingHash ⟨1, 7, 9⟩ (.ok (some .zero))], .ok accepted, 1⟩ :=
    verify_of_signed (checkClassical_of_recovered (by decide +kernel) rfl) (checkPq_absent rfl rfl)
  have hfails : verifier.watched.verify plain 1 =
      ⟨[.recover plain.signingHash ⟨1, 7, 9⟩ (.error (.unavailable "offline"))],
        .error (.signer (.unavailable "offline")), 2⟩ :=
    verify_of_undecided (checkClassical_of_wellFormed (by decide +kernel) rfl)
  have heach : verifier.watched.verifyEach [odd, plain] 0 =
      ⟨[.recover plain.signingHash ⟨1, 7, 9⟩ (.ok (some .zero))],
        [.rejected .classicalSignature, accepted].map .ok, 1⟩ := by
    rw [verifyEach_cons hodd, verifyEach_cons hplain]
    rfl
  have hresult := congrArg Observation.result heach
  obtain ⟨-, -, -, hfirst, -, -⟩ := batch_is_each_in_turn verifier [odd, plain, plain, odd] 0
  have hbatch := hfirst [odd, plain] plain [odd] _ (.signer (.unavailable "offline")) rfl hresult
  rw [heach, hfails] at hbatch
  exact ⟨hresult, hbatch rfl⟩

end HybridVerifier

end HybridTx
