import HybridTx.Proofs.Commands.Steps
import HybridTx.Proofs.Signing.Repeated

/-! Verifying under a configuration: when there is a verdict, and when the program ends well. -/

namespace HybridTx

/-- The verifier that a configuration names, for an account. -/
def HybridVerifier.configured {m : Type → Type} [Monad m] (host : Host m) (config : Config)
    (sender : Address) : Except CommandError (HybridVerifier m) :=
  (configuredVerifier host config).map fun pq => ⟨Secp256k1.verifier m, pq, sender⟩

variable {σ : Type} {host : Host (StateM σ)} {config : Config}

/-- A program is all that a configuration may lack for a verifier. -/
theorem configuredVerifier_eq_ok :
    (∃ pq, configuredVerifier host config = .ok pq) ↔
      (config.signer.mode = .command → config.signer.command ≠ none) := by
  rw [configuredVerifier]
  cases config.signer.mode with
  | inProcess => simp
  | command => cases hcommand : config.signer.command <;> simp [signerTool, hcommand, Except.map]

namespace HybridVerifier

variable {verifier : HybridVerifier (StateM σ)} {sender : Address}

theorem configured_eq_ok : configured host config sender = .ok verifier ↔
    ∃ pq, configuredVerifier host config = .ok pq ∧
      ⟨Secp256k1.verifier (StateM σ), pq, sender⟩ = verifier := by
  rw [configured, map_eq_ok]

end HybridVerifier

open HybridVerifier

theorem configuredVerdict_gives {sender : Address} {signed : SignedTransaction} {verdict : Verdict}
    {before after : σ} :
    (configuredVerdict host config sender signed).Gives before verdict after ↔
      ∃ verifier, configured host config sender = .ok verifier ∧
        verifier.verify signed before = (.ok verdict, after) := by
  simp only [configuredVerdict, configured_eq_ok, Step.gives_bind, Step.gives_pureOrFault,
    Step.gives_orFault]
  constructor
  · rintro ⟨pq, _, ⟨hpq, rfl⟩, hverdict⟩
    exact ⟨_, ⟨pq, hpq, rfl⟩, hverdict⟩
  · rintro ⟨_, ⟨pq, hpq, rfl⟩, hverdict⟩
    exact ⟨pq, before, ⟨hpq, rfl⟩, hverdict⟩

/-- There is a verdict when the digits are those of a transaction, the sender is an address, there
is a verifier and its backends do not fail. -/
theorem verdictOn_gives {raw sender : String} {signed : SignedTransaction} {verdict : Verdict}
    {before after : σ} :
    (verdictOn host config raw sender).Gives before (signed, verdict) after ↔
      readSigned raw = .ok signed ∧ ∃ address verifier, Address.ofHex sender = .ok address ∧
        configured host config address = .ok verifier ∧
        verifier.verify signed before = (.ok verdict, after) := by
  simp only [verdictOn, Step.gives_bind, Step.gives_pureOrFault, Step.gives_pure,
    configuredVerdict_gives]
  constructor
  · rintro ⟨_, _, ⟨hraw, rfl⟩, address, _, ⟨hsender, rfl⟩, _, _, ⟨verifier, hverifier, hverdict⟩,
      h, rfl⟩
    cases h
    exact ⟨hraw, address, verifier, hsender, hverifier, hverdict⟩
  · rintro ⟨hraw, address, verifier, hsender, hverifier, hverdict⟩
    exact ⟨signed, before, ⟨hraw, rfl⟩, address, before, ⟨hsender, rfl⟩, verdict, after,
      ⟨verifier, hverifier, hverdict⟩, rfl, rfl⟩

section Run

variable {raw sender : String} {before : σ}

theorem run_verify_of_gives {signed : SignedTransaction} {verdict : Verdict} {after : σ}
    (h : (verdictOn host config raw sender).Gives before (signed, verdict) after) :
    (Command.verify raw sender).run host config before = (.ofVerdict signed verdict, after) := by
  rw [Command.run, runVerify, Step.run_bind_apply, h]
  rfl

/-- The program ends well when what it verifies is accepted. -/
theorem exitCode_verify_eq_zero :
    ((Command.verify raw sender).run host config before).1.exitCode = 0 ↔
      ∃ signed account mode after,
        (verdictOn host config raw sender).Gives before (signed, .accepted account mode) after := by
  rw [Command.run, runVerify, Step.run_bind_apply, Outcome.exitCode_eq_zero]
  unfold Step.Gives
  rcases (verdictOn host config raw sender).runFrom before with
    ⟨fault | ⟨signed, ⟨account, mode⟩ | reason⟩, after⟩
  · constructor
    · intro h
      cases h
    · rintro ⟨_, _, _, _, h⟩
      cases h
  · exact ⟨fun _ => ⟨signed, account, mode, after, rfl⟩, fun _ => rfl⟩
  · constructor
    · intro h
      cases h
    · rintro ⟨_, _, _, _, h⟩
      cases h

end Run

end HybridTx
