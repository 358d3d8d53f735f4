import HybridTx.Files.Path

/-! What a user can set once for all commands. -/

namespace HybridTx

/-- Values of transaction fields that a command leaves out. Fees are kept as they were written. -/
structure ChainConfig where
  chainId : UInt64 := 1337
  maxPriorityFee : String := "0"
  maxFee : String := "2000000000"
  gasLimit : UInt64 := 100000
deriving DecidableEq, Repr

/-- Where keys are kept. -/
structure KeyConfig where
  ecdsaKey : Path := "~/.tandem/keys/ecdsa.key"
  pqKeyDir : Path := "~/.tandem/keys"
deriving DecidableEq, Repr

/-- Where post-quantum signing and verification happen: here, or in another program. -/
inductive SignerMode
  | inProcess
  | command
deriving DecidableEq, Repr

/-- The post-quantum backend. -/
structure SignerConfig where
  mode : SignerMode := .inProcess
  command : Option Path := none
  args : List String := []
  algorithm : String := "dilithium3"
deriving DecidableEq, Repr

/-- A configuration. -/
structure Config where
  chain : ChainConfig := {}
  keys : KeyConfig := {}
  signer : SignerConfig := {}
deriving DecidableEq, Repr

end HybridTx
