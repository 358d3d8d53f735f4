import HybridTx.Files.Disk
import HybridTx.PostQuantum.Key
import HybridTx.Secp256k1.Key

/-! Key files. A post-quantum pair is kept as raw bytes in two files named for its algorithm; a
classical key is a line of hexadecimal digits. Whatever goes wrong is told with the path. -/

namespace HybridTx

/-- Where a post-quantum pair is kept. -/
structure PqKeyFiles where
  privateKey : Path
  publicKey : Path
deriving DecidableEq, Repr

/-- The standard names in a directory. -/
def PqKeyFiles.inDir (dir : Path) (algorithm : PqAlgorithm) : PqKeyFiles where
  privateKey := Path.join dir (algorithm.name ++ "-private.key")
  publicKey := Path.join dir (algorithm.name ++ "-public.key")

namespace KeyStore

variable {m : Type → Type} [Monad m]

/-- A fault of the file system at a path. -/
def atPath {α : Type} (path : Path) (result : Except FileError α) : Except KeyError α :=
  result.mapError fun e => .keyFile path e.message

/-- A fault of what a file holds. -/
def inFile {α : Type} (path : Path) (result : Except KeyError α) : Except KeyError α :=
  result.mapError fun e => .keyFile path e.message

/-- Writes a file and leaves it to its owner alone. -/
def writePrivate (disk : Disk m) (path : Path) (content : Bytes) : m (Except KeyError Unit) := do
  match ← disk.write path content with
  | .error e => pure (.error (.keyFile path e.message))
  | .ok () => return atPath path (← disk.restrict path)

/-- Saves a pair under the standard names in a directory, which is made if need be. The private key
is written first. -/
def savePqPair (disk : Disk m) (dir : Path) (secret : PqSecretKey) (publicKey : Bytes) :
    m (Except KeyError PqKeyFiles) := do
  match ← disk.makeDirs dir with
  | .error e => pure (.error (.keyFile dir e.message))
  | .ok () =>
    let files := PqKeyFiles.inDir dir secret.algorithm
    match ← writePrivate disk files.privateKey secret.bytes with
    | .error e => pure (.error e)
    | .ok () =>
      match ← disk.write files.publicKey publicKey with
      | .error e => pure (.error (.keyFile files.publicKey e.message))
      | .ok () => pure (.ok files)

/-- Loads a post-quantum secret key. Its algorithm is told by its length. -/
def loadPqSecret (disk : Disk m) (path : Path) : m (Except KeyError PqSecretKey) := do
  match ← disk.read path with
  | .error e => pure (.error (.keyFile path e.message))
  | .ok bytes => pure (inFile path (PqSecretKey.infer bytes))

/-- Loads a post-quantum public key with its algorithm, which is told by its length. -/
def loadPqPublic (disk : Disk m) (path : Path) : m (Except KeyError (PqAlgorithm × Bytes)) := do
  match ← disk.read path with
  | .error e => pure (.error (.keyFile path e.message))
  | .ok bytes => pure (inFile path ((PqAlgorithm.ofPublicKey bytes).map (·, bytes)))

/-- Makes the directory of a file, if the path names one. -/
def makeParent (disk : Disk m) (path : Path) : m (Except KeyError Unit) :=
  match Path.parent? path with
  | none | some "" => pure (.ok ())
  | some parent => do return atPath parent (← disk.makeDirs parent)

/-- Saves a classical key, and makes the directory of its file if need be. -/
def saveEcdsa (disk : Disk m) (path : Path) (key : Secp256k1.SecretKey) :
    m (Except KeyError Unit) := do
  match ← makeParent disk path with
  | .error e => pure (.error e)
  | .ok () => writePrivate disk path (Bytes.ofString (key.toHex ++ "\n"))

/-- Loads a classical key. -/
def loadEcdsa (disk : Disk m) (path : Path) : m (Except KeyError Secp256k1.SecretKey) := do
  match ← disk.readText path with
  | .error e => pure (.error (.keyFile path e.message))
  | .ok text => pure (inFile path (Secp256k1.SecretKey.ofHex text))

end KeyStore

end HybridTx
