import HybridTx.Commands.Basic
import HybridTx.Commands.Host
import HybridTx.Keys.Store
import HybridTx.Signing.Attach
import HybridTx.Signing.Verify
import HybridTx.Tool.Signer

/-! Signing under a configuration. A transaction gets a post-quantum signature whenever the key
files are there, and one that was signed is verified before it is handed out. -/

namespace HybridTx

variable {m : Type → Type} [Monad m]

/-- A step of a command. -/
abbrev Step (m : Type → Type) := ExceptT CommandError m

/-- A step whose fault is told as `fault`. -/
def orFault {ε α : Type} (fault : ε → CommandError) (result : m (Except ε α)) : Step m α :=
  ExceptT.mk do return (← result).mapError fault

/-- A result whose fault is told as `fault`. -/
def pureOrFault {ε α : Type} (fault : ε → CommandError) (result : Except ε α) : Step m α :=
  ExceptT.mk (pure (result.mapError fault))

/-- The program that signs under a configuration. -/
def signerTool (host : Host m) (config : Config) : Except CommandError SignerTool :=
  match config.signer.command with
  | some program => .ok {
      program := host.expand program
      baseArgs := config.signer.args
      keyDir := host.expand config.keys.pqKeyDir }
  | none => .error .signerCommandMissing

/-- The verifier of a configuration. -/
def configuredVerifier (host : Host m) (config : Config) : Except CommandError (PqVerifier m) :=
  match config.signer.mode with
  | .inProcess => .ok (dilithiumVerifier m)
  | .command => (signerTool host config).map (·.verifier host.tools)

/-- The algorithm that a command names, or else the one that the configuration names. -/
def chosenAlgorithm (config : Config) (named : Option PqAlgorithm) :
    Except CommandError PqAlgorithm :=
  match named with
  | some algorithm => .ok algorithm
  | none => (PqAlgorithm.ofName config.signer.algorithm).mapError .key

/-- Where the classical key is. -/
def ecdsaKeyPath (host : Host m) (config : Config) (named : Option Path) : Path :=
  host.expand (named.getD config.keys.ecdsaKey)

/-- Where the post-quantum pair is: each file where the command says, or else under its standard
name. -/
def pqKeyFiles (host : Host m) (config : Config) (choices : PqChoices) :
    Except CommandError PqKeyFiles := do
  let algorithm ← chosenAlgorithm config choices.algorithm
  let standard := PqKeyFiles.inDir (host.expand config.keys.pqKeyDir) algorithm
  .ok {
    privateKey := (choices.privateKey.map host.expand).getD standard.privateKey
    publicKey := (choices.publicKey.map host.expand).getD standard.publicKey }

/-- Attaches a signature made with the pair in two files. -/
def attachFromFiles (host : Host m) (config : Config) (classical : ClassicallySigned)
    (files : PqKeyFiles) : Step m SignedTransaction := do
  let publicKey ← orFault (.unreadable files.publicKey) (host.disk.read files.publicKey)
  match config.signer.mode with
  | .inProcess =>
    let secret ← orFault .key (KeyStore.loadPqSecret host.disk files.privateKey)
    let signer ← pureOrFault .key (DilithiumSigner.ofAlgorithm secret.algorithm)
    orFault .transaction (classical.attachPq (signer.backend m host.random) secret publicKey)
  | .command =>
    let tool ← pureOrFault id (signerTool host config)
    let signer := tool.signer host.disk host.tools
    orFault .transaction (classical.attachPq signer files.privateKey publicKey)

/-- The post-quantum step. It is left out when that is asked for, or when a key file is missing and
the step is not required. -/
def completeSigning (host : Host m) (config : Config) (classical : ClassicallySigned)
    (choices : PqChoices) : Step m SignedTransaction := do
  if choices.skip then return classical.fallback
  let files ← pureOrFault id (pqKeyFiles host config choices)
  let havePrivate ← ExceptT.lift (host.disk.isPresent files.privateKey)
  let havePublic ← if havePrivate then ExceptT.lift (host.disk.isPresent files.publicKey)
    else pure false
  if havePublic then attachFromFiles host config classical files
  else if choices.require then throw (.pqKeysMissing files.privateKey files.publicKey)
  else return classical.fallback

/-- The verdict on a transaction under a configuration. -/
def configuredVerdict (host : Host m) (config : Config) (sender : Address)
    (signed : SignedTransaction) : Step m Verdict := do
  let pq ← pureOrFault id (configuredVerifier host config)
  let verifier : HybridVerifier m := ⟨Secp256k1.verifier m, pq, sender⟩
  orFault .transaction (verifier.verify signed)

/-- Signs a transaction and checks the result. -/
def signTransaction (host : Host m) (config : Config) (fields : FieldArgs) (key : Option Path)
    (choices : PqChoices) : Step m SignedTransaction := do
  let transaction ← pureOrFault id (fields.toTransaction config.chain)
  let secret ← orFault .key (KeyStore.loadEcdsa host.disk (ecdsaKeyPath host config key))
  let classical ← orFault .transaction (transaction.signClassical (Secp256k1.signer m) secret)
  let signed ← completeSigning host config classical choices
  match ← configuredVerdict host config secret.address signed with
  | .accepted _ _ => return signed
  | .rejected reason => throw (.selfCheck reason)

end HybridTx
