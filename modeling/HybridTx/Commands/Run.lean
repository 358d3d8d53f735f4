import HybridTx.Commands.Sign
import HybridTx.Commands.View

/-! Running commands: what they print, and how they end. -/

namespace HybridTx

variable {m : Type → Type} [Monad m]

/-- What came of a command: the lines that it printed, and the fault that ended it, if one did. -/
structure Outcome where
  lines : List String := []
  fault : Option CommandError := none

namespace Outcome

/-- The status that the program leaves. -/
def exitCode (outcome : Outcome) : UInt8 := if outcome.fault.isSome then 1 else 0

/-- All that the program prints. -/
def output (outcome : Outcome) : String := String.join (outcome.lines.map (· ++ "\n"))

/-- The outcome of a command that prints only when it succeeds. -/
def ofStep (step : Step m (List String)) : m Outcome := do
  match ← step.run with
  | .ok lines => pure { lines }
  | .error fault => pure { fault := some fault }

end Outcome

/-- Reads the digits of a transmitted transaction. -/
def readSigned (raw : String) : Except CommandError SignedTransaction := do
  let bytes ← readDigits "raw transaction" raw
  (SignedTransaction.decode bytes).mapError .transaction

/-- How many random numbers are tried for a key. Nearly all of them are keys. -/
def keyAttempts : Nat := 64

/-- A key from random bytes. -/
def drawEcdsaKey (random : Nat → m Bytes) :
    (attempts : Nat) → m (Except KeyError Secp256k1.SecretKey)
  | 0 => pure (.error (.invalidSecretKey Secp256k1.outOfRange))
  | attempts + 1 => do
    match Secp256k1.SecretKey.ofBytes (← random 32) with
    | .ok key => pure (.ok key)
    | .error _ => drawEcdsaKey random attempts

/-- Makes a post-quantum pair. -/
def runPqGenerate (host : Host m) (config : Config) (dir : Option Path)
    (algorithm : Option PqAlgorithm) : Step m (List String) := do
  let algorithm ← pureOrFault id (chosenAlgorithm config algorithm)
  let signer ← pureOrFault .key (DilithiumSigner.ofAlgorithm algorithm)
  let (secret, publicKey) ← pureOrFault .key (signer.generate (← ExceptT.lift (host.random 32)))
  let dir := host.expand (dir.getD config.keys.pqKeyDir)
  let files ← orFault .key (KeyStore.savePqPair host.disk dir secret publicKey)
  return [files.privateKey, files.publicKey]

/-- Signs a hash with a post-quantum key. -/
def runPqSign (host : Host m) (privateKey : Path) (hash : String) : Step m (List String) := do
  let secret ← orFault .key (KeyStore.loadPqSecret host.disk privateKey)
  let hash ← pureOrFault .transaction (TxHash.ofHex hash)
  let signature ← pureOrFault .key (secret.sign hash.bytes)
  return [Hex.encode signature.toBytes]

/-- The two answers of a verification. -/
def verdictWord (isValid : Bool) : String := if isValid then "true" else "false"

/-- Checks a post-quantum signature over a hash. -/
def runPqVerify (host : Host m) (publicKey : Path) (hash signature : String) :
    Step m (List String) := do
  let key ← orFault (.unreadable publicKey) (host.disk.read publicKey)
  let hash ← pureOrFault .transaction (TxHash.ofHex hash)
  let signature ← pureOrFault id (readDigits "signature" signature)
  let isValid ← pureOrFault .key (verifyTagged key hash.bytes signature)
  return [verdictWord isValid]

/-- Shows a post-quantum public key. -/
def runPqShow (host : Host m) (publicKey : Path) : Step m (List String) := do
  let (_, bytes) ← orFault .key (KeyStore.loadPqPublic host.disk publicKey)
  return [Hex.encode bytes]

/-- Makes a classical key. A key that is there is kept unless it may be overwritten. -/
def runEcdsaGenerate (host : Host m) (config : Config) (output : Option Path) (force : Bool) :
    Step m (List String) := do
  let path := ecdsaKeyPath host config output
  if (← ExceptT.lift (host.disk.isPresent path)) && !force then throw (.keyExists path)
  let key ← orFault .key (drawEcdsaKey host.random keyAttempts)
  orFault .key (KeyStore.saveEcdsa host.disk path key)
  return [key.address.display]

/-- Shows the address of a classical key. -/
def runEcdsaAddress (host : Host m) (config : Config) (key : Option Path) :
    Step m (List String) := do
  let key ← orFault .key (KeyStore.loadEcdsa host.disk (ecdsaKeyPath host config key))
  return [key.address.display]

/-- Shows the hash of a transaction. -/
def runHash (config : Config) (fields : FieldArgs) (payload : Bool) : Step m (List String) := do
  let transaction ← pureOrFault id (fields.toTransaction config.chain)
  let hash := transaction.hash.display
  return if payload then [Hex.encodeMarked transaction.signingPayload, hash] else [hash]

/-- Signs a transaction. -/
def runBuild (host : Host m) (config : Config) (fields : FieldArgs) (key : Option Path)
    (choices : PqChoices) : Step m (List String) := do
  let signed ← signTransaction host config fields key choices
  return [Hex.encodeMarked signed.encode]

/-- Shows what a transaction holds. -/
def runInspect (raw : String) : Step m (List String) := do
  let signed ← pureOrFault id (readSigned raw)
  return [(TransactionView.ofSigned signed).toJson.renderIndented]

/-- The verdict on the digits of a transaction, with the transaction. -/
def verdictOn (host : Host m) (config : Config) (raw sender : String) :
    Step m (SignedTransaction × Verdict) := do
  let signed ← pureOrFault id (readSigned raw)
  let sender ← pureOrFault (.address "sender") (Address.ofHex sender)
  return (signed, ← configuredVerdict host config sender signed)

/-- The outcome of a verdict. A rejection is printed and is a fault too. -/
def Outcome.ofVerdict (signed : SignedTransaction) : Verdict → Outcome
  | .accepted sender mode =>
    { lines := ["accepted sender=" ++ sender.display ++ " mode=" ++ mode.display] }
  | .rejected reason =>
    { lines := ["rejected: " ++ reason.message], fault := some (.rejected signed.signingHash) }

/-- Verifies a transaction. -/
def runVerify (host : Host m) (config : Config) (raw sender : String) : m Outcome := do
  match ← (verdictOn host config raw sender).run with
  | .ok (signed, verdict) => pure (.ofVerdict signed verdict)
  | .error fault => pure { fault := some fault }

/-- Runs a command under a configuration. -/
def Command.run (host : Host m) (config : Config) : Command → m Outcome
  | .pqGenerate dir algorithm => Outcome.ofStep (runPqGenerate host config dir algorithm)
  | .pqSign privateKey digest => Outcome.ofStep (runPqSign host privateKey digest)
  | .pqVerify publicKey digest signature =>
    Outcome.ofStep (runPqVerify host publicKey digest signature)
  | .pqShow publicKey => Outcome.ofStep (runPqShow host publicKey)
  | .ecdsaGenerate output force => Outcome.ofStep (runEcdsaGenerate host config output force)
  | .ecdsaAddress key => Outcome.ofStep (runEcdsaAddress host config key)
  | .hash fields payload => Outcome.ofStep (runHash config fields payload)
  | .build fields key choices => Outcome.ofStep (runBuild host config fields key choices)
  | .inspect raw => Outcome.ofStep (runInspect raw)
  | .verify raw sender => runVerify host config raw sender

/-- Loads the configuration of an invocation and runs its command. -/
def Invocation.run (host : Host m) (invocation : Invocation) : m Outcome := do
  match ← Config.load host.disk (host.expand invocation.config) with
  | .error e => pure { fault := some (.config e) }
  | .ok config => invocation.command.run host config

end HybridTx
