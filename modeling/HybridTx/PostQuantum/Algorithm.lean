import HybridTx.Dilithium.Parameters
import HybridTx.Keys.Error

/-! The post-quantum algorithms: their numbers on the wire, their names, and the sizes of keys and
signatures of those that are built in. -/

namespace HybridTx

/-- A post-quantum signature algorithm. -/
inductive PqAlgorithm
  | dilithium2
  | dilithium3
  | dilithium5
  | falcon512
  | falcon1024
deriving DecidableEq, Repr

namespace PqAlgorithm

/-- All algorithms. -/
def all : List PqAlgorithm := [dilithium2, dilithium3, dilithium5, falcon512, falcon1024]

/-- The algorithm when none is named. -/
def default : PqAlgorithm := dilithium3

/-- The byte in front of a signature. -/
def id : PqAlgorithm → UInt8
  | dilithium2 => 0x01
  | dilithium3 => 0x02
  | dilithium5 => 0x03
  | falcon512 => 0x04
  | falcon1024 => 0x05

/-- The name, also the start of the names of key files. -/
def name : PqAlgorithm → String
  | dilithium2 => "dilithium2"
  | dilithium3 => "dilithium3"
  | dilithium5 => "dilithium5"
  | falcon512 => "falcon512"
  | falcon1024 => "falcon1024"

/-- The algorithm with a given number. -/
def ofId (id : UInt8) : Except KeyError PqAlgorithm :=
  match all.find? (·.id == id) with
  | some algorithm => .ok algorithm
  | none => .error (.unsupportedAlgorithm id)

/-- A name in its plain form: no blanks around, small letters, no hyphens. -/
def plainName (text : String) : String :=
  String.ofList (((Text.trimChars text.toList).map Char.toLower).filter (· != '-'))

/-- The algorithm with a given name. -/
def ofName (text : String) : Except KeyError PqAlgorithm :=
  match all.find? (·.name == plainName text) with
  | some algorithm => .ok algorithm
  | none => .error (.unknownAlgorithm text)

/-- The parameters of an algorithm that is built in. -/
def parameters? : PqAlgorithm → Option Dilithium.Parameters
  | dilithium2 => some Dilithium.level2
  | dilithium3 => some Dilithium.level3
  | dilithium5 => some Dilithium.level5
  | falcon512 | falcon1024 => none

/-- The algorithm is built in. -/
def isSupported (algorithm : PqAlgorithm) : Bool := algorithm.parameters?.isSome

/-- The parameters of an algorithm, or a refusal. -/
def parameters (algorithm : PqAlgorithm) : Except KeyError Dilithium.Parameters :=
  match algorithm.parameters? with
  | some p => .ok p
  | none => .error (.unsupportedAlgorithm algorithm.id)

/-- Bytes of a public key. -/
def publicKeySize (algorithm : PqAlgorithm) : Except KeyError Nat :=
  algorithm.parameters.map Dilithium.Parameters.publicKeySize

/-- Bytes of a secret key. -/
def secretKeySize (algorithm : PqAlgorithm) : Except KeyError Nat :=
  algorithm.parameters.map Dilithium.Parameters.secretKeySize

/-- Bytes of a signature without its tag. -/
def signatureSize (algorithm : PqAlgorithm) : Except KeyError Nat :=
  algorithm.parameters.map Dilithium.Parameters.signatureSize

/-- The first algorithm whose parameters give a certain size. -/
def withSize? (size : Dilithium.Parameters → Nat) (length : Nat) : Option PqAlgorithm :=
  all.find? fun algorithm => algorithm.parameters?.map size == some length

/-- The algorithm of a public key, told by its length. -/
def ofPublicKey (publicKey : Bytes) : Except KeyError PqAlgorithm :=
  match withSize? Dilithium.Parameters.publicKeySize publicKey.length with
  | some algorithm => .ok algorithm
  | none =>
    .error (.invalidPublicKey s!"no algorithm has {publicKey.length}-byte public keys")

/-- The algorithm of a secret key, told by its length. -/
def ofSecretKey (secretKey : Bytes) : Except KeyError PqAlgorithm :=
  match withSize? Dilithium.Parameters.secretKeySize secretKey.length with
  | some algorithm => .ok algorithm
  | none =>
    .error (.invalidSecretKey s!"no algorithm has {secretKey.length}-byte secret keys")

end PqAlgorithm

end HybridTx
