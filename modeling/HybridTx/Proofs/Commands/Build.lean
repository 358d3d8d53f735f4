import HybridTx.Proofs.Arguments.Scan
import HybridTx.Proofs.Commands.Values
import HybridTx.Proofs.Commands.Verify
import HybridTx.Proofs.Hash.Numbers
import HybridTx.Proofs.Secp256k1.Recovery
import HybridTx.Proofs.Signing.Completeness
import HybridTx.Proofs.Transaction.Digest
import HybridTx.Proofs.Transaction.Texts
import HybridTx.Proofs.Tool.Signer

/-! Building a transaction and verifying it later. What is built has been verified before it is
printed, and the printed line is read back as what was built, so the verdict is the same again. -/

namespace HybridTx

open Rlp HybridVerifier

variable {σ : Type} {host : Host (StateM σ)} {config : Config}

/-- A classically signed transaction has a well-formed signature that its signer gave. -/
theorem Transaction.signClassical_gives {Key : Type} {tx : Transaction}
    {signer : ClassicalSigner (StateM σ) Key} {key : Key} {classical : ClassicallySigned}
    {before after : σ}
    (h : tx.signClassical signer key before = (.ok classical, after)) :
    classical.transaction = tx ∧ classical.signature.WellFormed := by
  rw [← unwatched_signClassical] at h
  obtain ⟨hresult, rfl⟩ := Prod.mk.inj h
  obtain ⟨signature, -, hshape, -, rfl⟩ := signClassical_eq_ok_iff.mp
    (congrArg (Observation.mk (tx.signClassical signer.watched key before).calls ·
      (tx.signClassical signer.watched key before).state) hresult)
  exact ⟨rfl, hshape⟩

/-- A transaction that was completed by a signer has a signature that the signer gave for the hash
that was kept. -/
theorem ClassicallySigned.attachPq_gives {Key : Type} {classical : ClassicallySigned}
    {signer : PqSigner (StateM σ) Key} {key : Key} {pqPublicKey : Bytes}
    {signed : SignedTransaction} {before after : σ}
    (h : classical.attachPq signer key pqPublicKey before = (.ok signed, after)) :
    ∃ pqSignature, signer.sign key classical.hash before = (.ok pqSignature, after) ∧
      classical.attachSignature pqSignature pqPublicKey = .ok signed := by
  rw [← unwatched_attachPq] at h
  obtain ⟨hresult, rfl⟩ := Prod.mk.inj h
  obtain ⟨pqSignature, hsigned, -, hattached⟩ := attachPq_eq_ok_iff.mp
    (congrArg (Observation.mk (classical.attachPq signer.watched key pqPublicKey before).calls ·
      (classical.attachPq signer.watched key pqPublicKey before).state) hresult)
  exact ⟨pqSignature, hsigned, hattached⟩

/-- The key files complete a transaction with a whole pair, the public half of which is what its
file holds. -/
theorem attachFromFiles_gives {classical : ClassicallySigned} {files : PqKeyFiles}
    {signed : SignedTransaction} {before after : σ}
    (h : (attachFromFiles host config classical files).Gives before signed after) :
    ∃ pqSignature pqPublicKey, (host.disk.read files.publicKey before).1 = .ok pqPublicKey ∧
      classical.attachSignature pqSignature pqPublicKey = .ok signed := by
  simp only [attachFromFiles, Step.gives_bind, Step.gives_orFault] at h
  obtain ⟨pqPublicKey, read, hread, h⟩ := h
  cases hmode : config.signer.mode with
  | inProcess =>
    simp only [hmode, Step.gives_bind, Step.gives_orFault, Step.gives_pureOrFault] at h
    obtain ⟨secret, _, -, signer, _, -, hattach⟩ := h
    obtain ⟨pqSignature, -, hattached⟩ := ClassicallySigned.attachPq_gives hattach
    exact ⟨pqSignature, pqPublicKey, congrArg Prod.fst hread, hattached⟩
  | command =>
    simp only [hmode, Step.gives_bind, Step.gives_orFault, Step.gives_pureOrFault] at h
    obtain ⟨tool, _, -, hattach⟩ := h
    obtain ⟨pqSignature, -, hattached⟩ := ClassicallySigned.attachPq_gives hattach
    exact ⟨pqSignature, pqPublicKey, congrArg Prod.fst hread, hattached⟩

/-- The post-quantum step that succeeds falls back, or attaches from the key files. -/
theorem completeSigning_gives {classical : ClassicallySigned} {choices : PqChoices}
    {signed : SignedTransaction} {before after : σ}
    (h : (completeSigning host config classical choices).Gives before signed after) :
    signed = classical.fallback ∨
      ∃ files between, pqKeyFiles host config choices = .ok files ∧
        (attachFromFiles host config classical files).Gives between signed after := by
  rw [completeSigning] at h
  split at h
  · obtain ⟨rfl, -⟩ := Step.gives_pure.mp h
    exact .inl rfl
  · simp only [Step.gives_bind, Step.gives_pureOrFault, Step.gives_lift] at h
    obtain ⟨files, _, ⟨hfiles, rfl⟩, havePrivate, asked, -, h⟩ := h
    have hchoice : ∃ (havePublic : Bool) (between : σ),
        Step.Gives (if havePublic then attachFromFiles host config classical files
          else if choices.require then throw (.pqKeysMissing files.privateKey files.publicKey)
          else pure classical.fallback) between signed after := by
      split at h
      · obtain ⟨havePublic, between, -, h⟩ := Step.gives_bind.mp h
        exact ⟨havePublic, between, h⟩
      · obtain ⟨havePublic, between, -, h⟩ := Step.gives_bind.mp h
        exact ⟨havePublic, between, h⟩
    obtain ⟨havePublic, between, h⟩ := hchoice
    split at h
    · exact .inr ⟨files, between, hfiles, h⟩
    · split at h
      · cases Step.not_gives_throw h
      · obtain ⟨rfl, -⟩ := Step.gives_pure.mp h
        exact .inl rfl

/-- What completes a transaction leaves it and its classical signature as they are. -/
theorem completeSigning_keeps {classical : ClassicallySigned} {choices : PqChoices}
    {signed : SignedTransaction} {before after : σ}
    (h : (completeSigning host config classical choices).Gives before signed after) :
    signed.transaction = classical.transaction ∧ signed.signature = classical.signature := by
  obtain rfl | ⟨files, between, -, hattach⟩ := completeSigning_gives h
  · exact ⟨rfl, rfl⟩
  · obtain ⟨_, _, -, hattached⟩ := attachFromFiles_gives hattach
    obtain ⟨-, -, rfl⟩ := ClassicallySigned.attachSignature_eq_ok_iff.mp hattached
    exact ⟨rfl, rfl⟩

/-- A successful build from one state to another: the steps that were taken, and the state in which
the result was checked. -/
structure Build (host : Host (StateM σ)) (config : Config) (fields : FieldArgs)
    (key : Option Path) (choices : PqChoices) (before after : σ) where
  transaction : Transaction
  secret : Secp256k1.SecretKey
  classical : ClassicallySigned
  signed : SignedTransaction
  verifier : HybridVerifier (StateM σ)
  verdict : Address × SignatureMode
  loaded : σ
  attested : σ
  during : σ
  described : fields.toTransaction config.chain = .ok transaction
  found : KeyStore.loadEcdsa host.disk (ecdsaKeyPath host config key) before = (.ok secret, loaded)
  attests : transaction.signClassical (Secp256k1.signer (StateM σ)) secret loaded =
    (.ok classical, attested)
  completes : (completeSigning host config classical choices).Gives attested signed during
  named : configured host config secret.address = .ok verifier
  accepted : verifier.verify signed during = (.ok (.accepted verdict.1 verdict.2), after)

/-- The steps of a build are told by where it starts. -/
instance {fields : FieldArgs} {key : Option Path} {choices : PqChoices} {before after : σ} :
    Subsingleton (Build host config fields key choices before after) := by
  constructor
  rintro ⟨_, _, _, _, _, verdict, _, _, _, hdescribed, hfound, hattests, hcompletes, hnamed,
      haccepted⟩
    ⟨_, _, _, _, _, verdict', _, _, _, hdescribed', hfound', hattests', hcompletes', hnamed',
      haccepted'⟩
  obtain rfl := Except.ok.inj (hdescribed.symm.trans hdescribed')
  obtain ⟨hsecret, rfl⟩ := Prod.mk.inj (hfound.symm.trans hfound')
  cases hsecret
  obtain ⟨hclassical, rfl⟩ := Prod.mk.inj (hattests.symm.trans hattests')
  cases hclassical
  obtain ⟨hsigned, rfl⟩ := Prod.mk.inj (Eq.trans hcompletes.symm hcompletes')
  cases hsigned
  cases hnamed.symm.trans hnamed'
  obtain ⟨hverdict, -⟩ := Prod.mk.inj (haccepted.symm.trans haccepted')
  cases verdict
  cases verdict'
  cases hverdict
  rfl

theorem signTransaction_gives {fields : FieldArgs} {key : Option Path} {choices : PqChoices}
    {before after : σ} {signed : SignedTransaction} :
    (signTransaction host config fields key choices).Gives before signed after ↔
      ∃ build : Build host config fields key choices before after, build.signed = signed := by
  simp only [signTransaction, Step.gives_bind, Step.gives_pureOrFault, Step.gives_orFault,
    configuredVerdict_gives]
  constructor
  · rintro ⟨transaction, _, ⟨hdescribed, rfl⟩, secret, loaded, hfound, classical, attested,
      hattests, complete, during, hcompletes, verdict, final, ⟨verifier, hnamed, hverdict⟩, h⟩
    cases verdict with
    | rejected reason => cases Step.not_gives_throw h
    | accepted sender mode =>
      obtain ⟨rfl, rfl⟩ := Step.gives_pure.mp h
      exact ⟨⟨transaction, secret, classical, complete, verifier, (sender, mode), loaded, attested,
        during, hdescribed, hfound, hattests, hcompletes, hnamed, hverdict⟩, rfl⟩
  · rintro ⟨build, rfl⟩
    exact ⟨_, _, ⟨build.described, rfl⟩, _, _, build.found, _, _, build.attests, _, _,
      build.completes, _, _, ⟨_, build.named, build.accepted⟩, Step.gives_pure.mpr ⟨rfl, rfl⟩⟩

/-- A build that ends well has signed a transaction, and prints its digits. -/
theorem run_build_eq_iff {fields : FieldArgs} {key : Option Path} {choices : PqChoices}
    {before after : σ} {outcome : Outcome} :
    (Command.build fields key choices).run host config before = (outcome, after) ∧
        outcome.exitCode = 0 ↔
      ∃ build : Build host config fields key choices before after,
        outcome = { lines := [Hex.encodeMarked build.signed.encode] } := by
  rw [Command.run, Outcome.ofStep_eq_iff]
  simp only [runBuild, Step.gives_bind, Step.gives_pure, signTransaction_gives]
  constructor
  · rintro ⟨_, ⟨_, _, ⟨build, rfl⟩, rfl, rfl⟩, rfl⟩
    exact ⟨build, rfl⟩
  · rintro ⟨build, rfl⟩
    exact ⟨_, ⟨_, _, ⟨build, rfl⟩, rfl, rfl⟩, rfl⟩

namespace Build

variable {fields : FieldArgs} {key : Option Path} {choices : PqChoices} {before after : σ}
  (build : Build host config fields key choices before after)

/-- The transaction that was described is the one that was signed. -/
theorem signed_keeps :
    build.signed.transaction = build.transaction ∧ build.signed.signature.WellFormed := by
  obtain ⟨htransaction, hshape⟩ := Transaction.signClassical_gives build.attests
  obtain ⟨hkept, hsignature⟩ := completeSigning_keeps build.completes
  exact ⟨hkept.trans htransaction, hsignature ▸ hshape⟩

/-- The printed digits are read as the transaction that was signed. -/
theorem readSigned_line (hlength : build.signed.encode.length < lengthBound) :
    readSigned (Hex.encodeMarked build.signed.encode) = .ok build.signed := by
  have hdecode := SignedTransaction.decode_encode build.signed_keeps.2 hlength
  rw [readSigned, bind_eq_ok]
  exact ⟨_, readDigits_encodeMarked _ _, mapError_eq_ok.mpr hdecode⟩

/-- A verifier that answers as during the build gives the verdict that it gave then: what was built
is accepted from the account of its key, in its own mode. -/
theorem verify_later {later : σ} (hanswers : build.verifier.pq.AnswersAsIn
      (build.verifier.watched.verify build.signed build.during).calls later) :
    (build.verifier.verify build.signed later).1 =
      .ok (.accepted build.secret.address build.signed.mode) := by
  have haccepted := congrArg Prod.fst build.accepted
  obtain ⟨pq, -, hverifier⟩ := configured_eq_ok.mp build.named
  have hsender : build.secret.address = build.verifier.expectedSender := by rw [← hverifier]
  have hrecover : ∀ state, build.verifier.classical.recover build.signed.signingHash
      build.signed.signature state = (.ok (Secp256k1.recoverAddress build.signed.signingHash
        build.signed.signature), state) := by
    intro state
    rw [← hverifier, Secp256k1.verifier_apply]
  rw [verify_again hrecover hanswers]
  rw [← unwatched_verify] at haccepted ⊢
  obtain ⟨haccount, hmode⟩ := verify_accepted haccepted
  rw [hsender, ← haccount, ← hmode]
  exact haccepted

/-- The verifier that is built in always answers as during the build. -/
theorem answersAsIn_of_inProcess (hmode : config.signer.mode = .inProcess) (later : σ) :
    build.verifier.pq.AnswersAsIn (build.verifier.watched.verify build.signed build.during).calls
      later := by
  obtain ⟨pq, hpq, hverifier⟩ := configured_eq_ok.mp build.named
  rw [configuredVerifier, hmode] at hpq
  cases hpq
  apply answersAsIn_of_function
  rw [← hverifier]
  exact fun _ _ _ _ => rfl

/-- The printed digits and the displayed account are arguments that verify. -/
theorem read_verify_line :
    let line := Hex.encodeMarked build.signed.encode
    let account := build.secret.address.display
    Arguments.read ["tx", "verify", line, "--sender", account] =
      .ok { command := .verify line account } := by
  apply Arguments.read_verify
  · rw [Arguments.Argument.ofString, Hex.toList_encodeMarked]
    rfl
  · have hdisplay : build.secret.address.display = Hex.encodeMarked build.secret.address.bytes :=
      rfl
    simp [Arguments.isOptionLike, hdisplay, Hex.toList_encodeMarked]

end Build

section Sample

/-- A host that counts what is asked of it. One file holds a key and every other file one byte; the
program signs with two bytes and accepts every signature. -/
def countingHost : Host (StateM Nat) where
  disk := {
    read := fun path count => (.ok (if path = "ecdsa.key" then
      Bytes.ofString "0000000000000000000000000000000000000000000000000000000000000001\n"
      else [7]), count + 1)
    write := fun _ _ count => (.error .denied, count + 1)
    restrict := fun _ count => (.error .denied, count + 1)
    makeDir := fun _ count => (.error .denied, count + 1)
    isPresent := fun _ count => (true, count + 1)
    isDir := fun _ count => (true, count + 1) }
  tools := {
    run := fun _ args count => (.ok ⟨.code 0, Bytes.ofString
      (if args.head? = some "verify" then "true\n" else "0x0a0b\n"), []⟩, count + 1)
    stage := fun _ count => (.ok "staged", count + 1)
    unstage := fun _ count => ((), count + 1) }
  random := fun size count => (List.replicate size 0, count + 1)
  home := none

/-- A configuration with a program for the post-quantum signatures. -/
def countingConfig : Config where
  keys := { ecdsaKey := "ecdsa.key", pqKeyDir := "keys" }
  signer := { mode := .command, command := some "signer" }

def countingTool : SignerTool := { program := "signer", keyDir := "keys" }

theorem signerTool_countingConfig : signerTool countingHost countingConfig = .ok countingTool := by
  decide +kernel

theorem countingTool_sign {key : Path} (hkey : '\x00' ∉ key.toList) (hash : TxHash) (count : Nat) :
    (countingTool.signer countingHost.disk countingHost.tools).sign key hash count =
      (.ok [10, 11], count + 1) := by
  have hrun : countingHost.tools.run countingTool.program
      (countingTool.baseArgs ++ ["sign", key, Hex.encode hash.bytes]) count =
        (.ok ⟨.code 0, Bytes.ofString "0x0a0b\n", []⟩, count + 1) := rfl
  have hanswer : (countingTool.interpret "sign" ⟨.code 0, Bytes.ofString "0x0a0b\n", []⟩).bind
      SignerTool.readSignature = .ok [10, 11] := by decide +kernel
  rw [SignerTool.sign_of_run (by decide) hkey hrun, hanswer]

theorem countingTool_verify (publicKey : Bytes) (hash : TxHash) (signature : Bytes) (count : Nat) :
    (countingTool.verifier countingHost.tools).verify publicKey hash signature count =
      (.ok true, count + 3) := by
  have hrun : countingHost.tools.run countingTool.program
      (countingTool.baseArgs ++ ["verify", "staged", Hex.encode hash.bytes, Hex.encode signature])
      (count + 1) = (.ok ⟨.code 0, Bytes.ofString "true\n", []⟩, count + 2) := rfl
  have hanswer : (countingTool.interpret "verify" ⟨.code 0, Bytes.ofString "true\n", []⟩).bind
      SignerTool.readVerdict = .ok true := by decide +kernel
  rw [SignerTool.verify_of_run (by decide) (by decide) rfl hrun rfl, hanswer]

/-- A transaction with nothing but the standard fees. -/
def sampleTransaction : Transaction :=
  { chainId := 1337, maxFee := 2000000000, gasLimit := 100000 }

theorem hash_sampleTransaction : sampleTransaction.hash = Secp256k1.sampleHash := by
  rw [Transaction.hash_eq, Keccak.keccak256, Keccak.Sponge.absorb_eq (by decide)]
  decide +kernel

def sampleClassical : ClassicallySigned :=
  ⟨sampleTransaction, Secp256k1.sampleHash, Secp256k1.sampleSignature⟩

def sampleSigned : SignedTransaction :=
  ⟨sampleTransaction, Secp256k1.sampleSignature, [10, 11], [7]⟩

def sampleVerifier : HybridVerifier (StateM Nat) :=
  ⟨Secp256k1.verifier (StateM Nat), countingTool.verifier countingHost.tools,
    Secp256k1.unitKey.address⟩

theorem signClassical_sample (count : Nat) :
    sampleTransaction.signClassical (Secp256k1.signer (StateM Nat)) Secp256k1.unitKey count =
      (.ok sampleClassical, count) := by
  have hsigned : (Secp256k1.signer (StateM Nat)).sign Secp256k1.unitKey sampleTransaction.hash
      count = (.ok Secp256k1.sampleSignature, count) := by
    rw [hash_sampleTransaction, Secp256k1.signer_apply, Secp256k1.sign_sampleHash]
    rfl
  rw [Transaction.signClassical_of_signed hsigned (by decide +kernel), hash_sampleTransaction]
  rfl

theorem completeSigning_sample :
    (completeSigning countingHost countingConfig sampleClassical {}).Gives 1 sampleSigned 5 := by
  have hfiles : pqKeyFiles countingHost countingConfig {} =
      .ok ⟨"keys/dilithium3-private.key", "keys/dilithium3-public.key"⟩ := by decide +kernel
  have hattached : sampleClassical.attachPq
      (countingTool.signer countingHost.disk countingHost.tools) "keys/dilithium3-private.key" [7]
      4 = (.ok sampleSigned, 5) :=
    ClassicallySigned.attachPq_of_signed (countingTool_sign (by decide) _ _) (by simp) (by simp)
  have hattach : (attachFromFiles countingHost countingConfig sampleClassical
      ⟨"keys/dilithium3-private.key", "keys/dilithium3-public.key"⟩).Gives 3 sampleSigned 5 := by
    simp only [attachFromFiles, countingConfig, Step.gives_bind, Step.gives_orFault,
      Step.gives_pureOrFault]
    exact ⟨[7], 4, rfl, countingTool, 4, ⟨signerTool_countingConfig, rfl⟩, hattached⟩
  simp only [completeSigning, Bool.false_eq_true, if_false, Step.gives_bind,
    Step.gives_pureOrFault, Step.gives_lift]
  refine ⟨_, 1, ⟨hfiles, rfl⟩, true, 2, rfl, ?_⟩
  simp only [if_true, Step.gives_bind, Step.gives_lift]
  exact ⟨true, 3, rfl, hattach⟩

theorem configured_sample :
    configured countingHost countingConfig Secp256k1.unitKey.address = .ok sampleVerifier := by
  rw [configured, configuredVerifier, signerTool_countingConfig]
  rfl

theorem verify_sample (count : Nat) : sampleVerifier.verify sampleSigned count =
    (.ok (.accepted Secp256k1.unitKey.address .hybrid), count + 3) := by
  have hhash : sampleSigned.signingHash = Secp256k1.sampleHash := hash_sampleTransaction
  have hrecover : sampleVerifier.classical.recover sampleSigned.signingHash
      sampleSigned.signature count = (.ok (some sampleVerifier.expectedSender), count) := by
    rw [hhash]
    exact congrArg (Prod.mk · count) (congrArg Except.ok Secp256k1.recover_sampleHash)
  have hshape : sampleSigned.signature.WellFormed := by decide +kernel
  have hchecked : sampleVerifier.watched.checkClassical sampleSigned.signingHash
      sampleSigned.signature count = ⟨_, .ok true, count⟩ :=
    checkClassical_of_recovered hshape hrecover
  have hpair : sampleVerifier.watched.checkPq sampleSigned.signingHash sampleSigned.pqSignature
      sampleSigned.pqPublicKey count = ⟨_, _, count + 3⟩ :=
    checkPq_present (List.cons_ne_nil _ _) (List.cons_ne_nil _ _) (countingTool_verify _ _ _ _)
  rw [← unwatched_verify, Watched.unwatched, verify_of_signed hchecked hpair]
  rfl

/-- A build with the standard fields. -/
def sampleBuild : Build countingHost countingConfig {} none {} 0 8 where
  transaction := sampleTransaction
  secret := Secp256k1.unitKey
  classical := sampleClassical
  signed := sampleSigned
  verifier := sampleVerifier
  verdict := (Secp256k1.unitKey.address, .hybrid)
  loaded := 1
  attested := 1
  during := 5
  described := by decide +kernel
  found := by rfl
  attests := signClassical_sample 1
  completes := completeSigning_sample
  named := configured_sample
  accepted := verify_sample 5

end Sample

/-- What is built is accepted. The one line that a build prints verifies with the account of the key
in any later state, and whatever the arguments, verifying ends well exactly when they are read,
there is a verifier, and it accepts. -/
theorem built_lines_accepted (host : Host (StateM σ)) (config : Config) :
    (∀ fields key choices before outcome after,
      (Command.build fields key choices).run host config before = (outcome, after) →
      outcome.exitCode = 0 →
      ∃ build : Build host config fields key choices before after,
        let signed := build.signed
        let line := Hex.encodeMarked signed.encode
        let account := build.secret.address.display
        let AnswersAsBuilt := build.verifier.pq.AnswersAsIn
          (build.verifier.watched.verify signed build.during).calls
        signed.transaction = build.transaction ∧ outcome = { lines := [line] } ∧
        (config.signer.mode = .inProcess → ∀ later, AnswersAsBuilt later) ∧
        (signed.encode.length < lengthBound →
          Arguments.read ["tx", "verify", line, "--sender", account] =
            .ok { command := .verify line account } ∧
          readSigned line = .ok signed ∧
          ∀ later, AnswersAsBuilt later →
            ((Command.verify line account).run host config later).1 =
              { lines := ["accepted sender=" ++ account ++ " mode=" ++ signed.mode.display] })) ∧
    (∀ raw sender state,
      ((Command.verify raw sender).run host config state).1.exitCode = 0 ↔
        ∃ bytes signed address pq account mode,
          Hex.decodeMarked (Text.trim raw) = .ok bytes ∧
          SignedTransaction.decode bytes = .ok signed ∧ Address.ofHex sender = .ok address ∧
          configuredVerifier host config = .ok pq ∧
          (HybridVerifier.verify ⟨Secp256k1.verifier (StateM σ), pq, address⟩ signed state).1 =
            .ok (.accepted account mode)) ∧
    ((∃ pq, configuredVerifier host config = .ok pq) ↔
      (config.signer.mode = .command → config.signer.command ≠ none)) := by
  refine ⟨?_, ?_, configuredVerifier_eq_ok⟩
  · intro fields key choices before outcome after hrun hcode
    obtain ⟨build, houtcome⟩ := run_build_eq_iff.mp ⟨hrun, hcode⟩
    refine ⟨build, build.signed_keeps.1, houtcome, build.answersAsIn_of_inProcess, ?_⟩
    intro hlength
    refine ⟨build.read_verify_line, build.readSigned_line hlength, fun later hanswers => ?_⟩
    have hverdict := build.verify_later hanswers
    have hgives := verdictOn_gives.mpr ⟨build.readSigned_line hlength, _, _,
      build.secret.address.ofHex_display, build.named, Prod.ext hverdict rfl⟩
    rw [run_verify_of_gives hgives]
    rfl
  · intro raw sender state
    rw [exitCode_verify_eq_zero]
    simp only [verdictOn_gives, configured_eq_ok, readSigned, readDigits, bind_eq_ok,
      mapError_eq_ok]
    constructor
    · rintro ⟨signed, account, mode, after, ⟨bytes, hraw, hdecode⟩, address, _, hsender,
        ⟨pq, hpq, rfl⟩, hverdict⟩
      exact ⟨bytes, signed, address, pq, account, mode, hraw, hdecode, hsender, hpq,
        congrArg Prod.fst hverdict⟩
    · rintro ⟨bytes, signed, address, pq, account, mode, hraw, hdecode, hsender, hpq, hverdict⟩
      exact ⟨signed, account, mode, _, ⟨bytes, hraw, hdecode⟩, address, _, hsender,
        ⟨pq, hpq, rfl⟩, Prod.ext hverdict rfl⟩

/-- A host that changes with every use prints a line, and accepts it when it has changed. -/
theorem built_lines_accepted_hybrid :
    let line := "0x05f85982053980808477359400830186a0808080c001a0e041990cc8b043f2110d8e0a7d4d38" ++
      "45192da9008015064dfe86fa54e1d15f7ca051c9c920dc3ded369119a1b3fb490a945c22b0a1a5851db4cfd4" ++
      "3d395e8f5750820a0b07"
    let account := "0x7e5f4552091a69125d5dfcb7b8c2659029395bdf"
    (Command.build {} none {}).run countingHost countingConfig 0 = ({ lines := [line] }, 8) ∧
      ((Command.verify line account).run countingHost countingConfig 100).1 =
        { lines := ["accepted sender=" ++ account ++ " mode=hybrid"] } := by
  intro line account
  have hline : Hex.encodeMarked sampleSigned.encode = line := by decide +kernel
  have haccount : Secp256k1.unitKey.address.display = account := by decide +kernel
  obtain ⟨hrun, hcode⟩ := run_build_eq_iff.mpr ⟨sampleBuild, rfl⟩
  obtain ⟨hbuilt, -, -⟩ := built_lines_accepted countingHost countingConfig
  obtain ⟨build, -, -, -, hverified⟩ := hbuilt _ _ _ _ _ _ hrun hcode
  obtain rfl : build = sampleBuild := Subsingleton.elim _ _
  obtain ⟨-, -, hlater⟩ := hverified (by decide +kernel)
  have hopinion : ∀ publicKey hash signature count,
      (sampleVerifier.pq.verify publicKey hash signature count).1 = .ok true :=
    fun publicKey hash signature count =>
      congrArg Prod.fst (countingTool_verify publicKey hash signature count)
  have hverdict : ((Command.verify (Hex.encodeMarked sampleSigned.encode)
      Secp256k1.unitKey.address.display).run countingHost countingConfig 100).1 =
        { lines := ["accepted sender=" ++ Secp256k1.unitKey.address.display ++ " mode=" ++
          sampleSigned.mode.display] } := hlater 100 (answersAsIn_of_function hopinion)
  -- The line is folded back into its name, so that no step computes the transaction from it.
  have hmode : " mode=" ++ sampleSigned.mode.display = " mode=hybrid" := by decide +kernel
  rw [String.append_assoc, hmode, hline, haccount] at hverdict
  rw [← hline] at hverdict ⊢
  exact ⟨hrun, hverdict⟩

end HybridTx
