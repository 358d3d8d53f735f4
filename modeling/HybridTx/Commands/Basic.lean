import HybridTx.Commands.Fields
import HybridTx.PostQuantum.Algorithm

/-! The commands of the program. -/

namespace HybridTx

/-- The choices of the post-quantum step. The last two exclude each other. -/
structure PqChoices where
  privateKey : Option Path := none
  publicKey : Option Path := none
  algorithm : Option PqAlgorithm := none
  skip : Bool := false
  require : Bool := false
deriving DecidableEq, Repr

/-- Something to do. -/
inductive Command
  /-- Makes a post-quantum pair and prints the paths of its files. -/
  | pqGenerate (dir : Option Path) (algorithm : Option PqAlgorithm)
  /-- Prints a post-quantum signature over a hash. -/
  | pqSign (privateKey : Path) (hash : String)
  /-- Prints whether a post-quantum signature over a hash holds. -/
  | pqVerify (publicKey : Path) (hash signature : String)
  /-- Prints a post-quantum public key. -/
  | pqShow (publicKey : Path)
  /-- Makes a classical key and prints its address. -/
  | ecdsaGenerate (output : Option Path) (force : Bool)
  /-- Prints the address of a classical key. -/
  | ecdsaAddress (key : Option Path)
  /-- Prints the hash of a transaction, and perhaps what is hashed. -/
  | hash (fields : FieldArgs) (payload : Bool)
  /-- Signs a transaction and prints it. -/
  | build (fields : FieldArgs) (key : Option Path) (pq : PqChoices)
  /-- Prints what a transaction holds. -/
  | inspect (raw : String)
  /-- Prints the verdict on a transaction. -/
  | verify (raw sender : String)
deriving DecidableEq, Repr

/-- A command, and the configuration file that it runs under. -/
structure Invocation where
  config : Path := "tandem.toml"
  verbose : Bool := false
  command : Command
deriving DecidableEq, Repr

end HybridTx
