import HybridTx.Commands.Process
import HybridTx.Proofs.Arguments.Scan
import HybridTx.Proofs.Commands.Steps
import HybridTx.Proofs.Commands.Values
import HybridTx.Proofs.Keys.Store
import HybridTx.Proofs.Transaction.Texts

/-! Processes that sign or verify a hash. From their arguments and a file that they read, what they
print is one line or nothing. -/

namespace HybridTx

variable {σ : Type} {host : Host (StateM σ)} {config path : Path} {before started after : σ}
  {args : List String} {publicKey signature content : Bytes} {hash : TxHash}

/-- What comes of a command that prints one line or fails. -/
def Outcome.ofLine : Except CommandError String → Outcome
  | .ok line => { lines := [line] }
  | .error fault => { fault := some fault }

theorem Outcome.ofStep_of_runFrom {step : Step (StateM σ) (List String)}
    {result : Except CommandError String}
    (h : step.runFrom before = (result.map ([·]), after)) :
    ofStep step before = (ofLine result, after) := by
  rw [ofStep, Step.run_bind_apply, h]
  cases result <;> rfl

theorem Step.gives_ofHex_encode :
    (pureOrFault .transaction (TxHash.ofHex (Hex.encode hash.bytes)) :
      Step (StateM σ) TxHash).Gives before hash before :=
  gives_pureOrFault.mpr ⟨hash.ofHex_encode, rfl⟩

theorem runPqVerify_runFrom (hread : host.disk.read path started = (.ok publicKey, after)) :
    (runPqVerify host path (Hex.encode hash.bytes) (Hex.encode signature)).runFrom started =
      ((((verifyTagged publicKey hash.bytes signature).mapError .key).map verdictWord).map ([·]),
        after) := by
  have hkey : (orFault (.unreadable path) (host.disk.read path)).Gives started publicKey after :=
    Step.gives_orFault.mpr hread
  have hsignature : (pureOrFault id (readDigits "signature" (Hex.encode signature)) :
      Step (StateM σ) Bytes).Gives after signature after :=
    Step.gives_pureOrFault.mpr ⟨readDigits_encode _ _, rfl⟩
  rw [runPqVerify, hkey.runFrom_bind, Step.gives_ofHex_encode.runFrom_bind,
    hsignature.runFrom_bind]
  cases verifyTagged publicKey hash.bytes signature <;> rfl

/-- The signature made with the content of a key file, which is told to be a key by its length. A
fault of the content is told with the path of the file. -/
def signWithFile (path : Path) (content : Bytes) (hash : TxHash) : Except KeyError PqSignature := do
  (← KeyStore.inFile path (PqSecretKey.infer content)).sign hash.bytes

theorem runPqSign_runFrom (hread : host.disk.read path started = (.ok content, after)) :
    (runPqSign host path (Hex.encode hash.bytes)).runFrom started =
      ((((signWithFile path content hash).mapError .key).map fun signature =>
        Hex.encode signature.toBytes).map ([·]), after) := by
  have hload : KeyStore.loadPqSecret host.disk path started =
      (KeyStore.inFile path (PqSecretKey.infer content), after) :=
    KeyStore.loadPqSecret_of_read hread
  let loading := orFault CommandError.key (KeyStore.loadPqSecret host.disk path)
  rw [runPqSign, signWithFile]
  cases hkey : KeyStore.inFile path (PqSecretKey.infer content) with
  | error e =>
    have hfault : loading.runFrom started = (.error (.key e), after) := by
      rw [Step.runFrom_orFault, hload, hkey]
      rfl
    rw [Step.runFrom_bind_of_fault hfault]
    rfl
  | ok key =>
    have hgives : loading.Gives started key after := by
      rw [Step.gives_orFault, hload, hkey]
    rw [hgives.runFrom_bind, Step.gives_ofHex_encode.runFrom_bind, ok_bind]
    cases key.sign hash.bytes <;> rfl

theorem runProgram_of_read {invocation : Invocation} {loaded : Config} {outcome : Outcome}
    (hread : Arguments.read args = .ok invocation)
    (hload : Config.load host.disk (host.expand invocation.config) before = (.ok loaded, started))
    (hrun : invocation.command.run host loaded started = (outcome, after)) :
    runProgram host args before = (.ofOutcome outcome, after) := by
  simp only [runProgram, hread, Invocation.run, bind, StateT.bind, hload, hrun]
  rfl

/-- What the program finds when it is started: its configuration is loaded, and then a file has
this content. -/
def Host.Offers (host : Host (StateM σ)) (config : Path) (before : σ) (path : Path)
    (content : Bytes) : Prop :=
  ∃ loaded started after,
    Config.load host.disk (host.expand config) before = (.ok loaded, started) ∧
      host.disk.read path started = (.ok content, after)

theorem runProgram_verify (hash : TxHash) (signature : Bytes)
    (hleads : Arguments.LeadsToPq args config) (hpath : Arguments.IsPathArgument path)
    (hoffers : host.Offers config before path publicKey) :
    ∃ after, runProgram host
        (args ++ ["verify", path, Hex.encode hash.bytes, Hex.encode signature]) before =
      (.ofOutcome (.ofLine (((verifyTagged publicKey hash.bytes signature).mapError .key).map
        verdictWord)), after) := by
  obtain ⟨invocation, hread, rfl, hcommand⟩ :=
    Arguments.read_pqVerify hleads hpath hash.bytes signature
  obtain ⟨loaded, started, after, hload, hfile⟩ := hoffers
  refine ⟨after, runProgram_of_read hread hload ?_⟩
  rw [hcommand]
  exact Outcome.ofStep_of_runFrom (runPqVerify_runFrom hfile)

theorem runProgram_sign (hash : TxHash) (hleads : Arguments.LeadsToPq args config)
    (hpath : Arguments.IsPathArgument path) (hoffers : host.Offers config before path content) :
    ∃ after, runProgram host (args ++ ["sign", path, Hex.encode hash.bytes]) before =
      (.ofOutcome (.ofLine (((signWithFile path content hash).mapError .key).map fun signature =>
        Hex.encode signature.toBytes)), after) := by
  obtain ⟨invocation, hread, rfl, hcommand⟩ := Arguments.read_pqSign hleads hpath hash.bytes
  obtain ⟨loaded, started, after, hload, hfile⟩ := hoffers
  refine ⟨after, runProgram_of_read hread hload ?_⟩
  rw [hcommand]
  exact Outcome.ofStep_of_runFrom (runPqSign_runFrom hfile)

end HybridTx
