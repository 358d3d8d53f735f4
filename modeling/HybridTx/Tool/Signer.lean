import HybridTx.Files.Disk
import HybridTx.Signing.Backend
import HybridTx.Text.Split
import HybridTx.Tool.Basic

/-! Post-quantum signing by another program. The program takes one of three commands,
`generate-keypair <dir>`, `sign <private key file> <hash>` and
`verify <public key file> <hash> <signature>`, and gives its answer in its last lines; whatever it
prints before them is not looked at. -/

namespace HybridTx

/-- A program that signs. Its own arguments stand before each command. -/
structure SignerTool where
  program : Path
  baseArgs : List String := []
  keyDir : Path
deriving DecidableEq, Repr

namespace SignerTool

/-- The lines of a text without blanks around them, less the blank ones. -/
def answerLines (text : String) : List String :=
  (((Text.splitAt '\n' text.toList).map Text.trimChars).filter (· ≠ [])).map String.ofList

/-- What a finished program answered: nothing counts unless it ended well and wrote text. -/
def interpret (tool : SignerTool) (command : String) (output : ToolOutput) :
    Except SignerError (List String) :=
  if output.status = .code 0 then
    match Utf8.decode output.stdout with
    | .ok text => .ok (answerLines text)
    | .error e => .error (.malformedOutput e.message)
  else
    .error (.failed (tool.program ++ " " ++ command ++ " exited with " ++ output.status.describe
      ++ ": " ++ Text.trim (Utf8.decodeLenient output.stderr)))

/-- The last line of an answer. -/
def lastLine (lines : List String) : Except SignerError String :=
  match lines.getLast? with
  | some line => .ok line
  | none => .error (.malformedOutput "no output")

/-- Reads the answer to `verify`. -/
def readVerdict (lines : List String) : Except SignerError Bool := do
  match ← lastLine lines with
  | "true" => .ok true
  | "false" => .ok false
  | other => .error (.malformedOutput ("expected true or false, got " ++ Text.quote other))

/-- Reads the answer to `sign`. -/
def readSignature (lines : List String) : Except SignerError Bytes := do
  (Hex.decodeMarked (← lastLine lines)).mapError fun e =>
    .malformedOutput ("signature is not hex: " ++ e.message)

/-- Reads the answer to `generate-keypair`: the paths of the private and the public key. -/
def readKeyPaths (lines : List String) : Except SignerError (Path × Path) :=
  match lines.reverse with
  | publicKey :: privateKey :: _ => .ok (privateKey, publicKey)
  | _ => .error (.malformedOutput "generate-keypair printed fewer than two lines")

variable {m : Type → Type} [Monad m]

/-- Runs one command to its answer. No program can be given a text with a NUL in it. -/
def ask (tool : SignerTool) (runner : ToolRunner m) (command : String) (args : List String) :
    m (Except SignerError (List String)) := do
  let args := tool.baseArgs ++ command :: args
  let unavailable (e : FileError) : SignerError :=
    .unavailable (tool.program ++ ": " ++ e.message)
  if (tool.program :: args).any (·.contains '\x00') then
    return .error (unavailable .nulInArgument)
  match ← runner.run tool.program args with
  | .error e => pure (.error (unavailable e))
  | .ok output => pure (tool.interpret command output)

/-- Checks a signature against a public key that is in a file. -/
def verifyKeyFile (tool : SignerTool) (runner : ToolRunner m) (publicKey : Path) (hash : TxHash)
    (signature : Bytes) : m (Except SignerError Bool) := do
  let lines ← tool.ask runner "verify" [publicKey, Hex.encode hash.bytes, Hex.encode signature]
  pure (lines.bind readVerdict)

/-- The signer that the program is. Its keys are the paths of their files. -/
def signer (tool : SignerTool) (disk : Disk m) (runner : ToolRunner m) : PqSigner m Path where
  generateKeypair := do
    let lines ← tool.ask runner "generate-keypair" [tool.keyDir]
    match lines.bind readKeyPaths with
    | .error e => pure (.error e)
    | .ok (privateKey, publicKey) =>
      match ← disk.read publicKey with
      | .error e => pure (.error (.malformedOutput (publicKey ++ ": " ++ e.message)))
      | .ok bytes => pure (.ok (privateKey, bytes))
  sign key hash := do
    let lines ← tool.ask runner "sign" [key, Hex.encode hash.bytes]
    pure (lines.bind readSignature)

/-- The verifier that the program is. The public key lies in a file of its own for the length of
the call. -/
def verifier (tool : SignerTool) (runner : ToolRunner m) : PqVerifier m where
  verify publicKey hash signature := do
    match ← runner.stage publicKey with
    | .error e => pure (.error (.failed ("staging public key: " ++ e.message)))
    | .ok path =>
      let verdict ← tool.verifyKeyFile runner path hash signature
      runner.unstage path
      pure verdict

end SignerTool

end HybridTx
