import HybridTx.Config.Basic
import HybridTx.Toml.Reader

/-! Reading a configuration. Sections and settings that are not known are left alone, and those that
are missing have their defaults. A section may also be an array of its settings in order. -/

namespace HybridTx

namespace Toml

/-- A number of 64 bits. -/
def Value.word? : Value → Option UInt64
  | .integer n => if 0 ≤ n then some (UInt64.ofNat n.toNat) else none
  | _ => none

/-- A text. -/
def Value.text? : Value → Option String
  | .string text => some text
  | _ => none

/-- A list of texts. -/
def Value.texts? : Value → Option (List String)
  | .array items => items.mapM Value.text?
  | _ => none

/-- A choice by name: a text, or a table with nothing under the name. -/
def Value.choice? : Value → Option String
  | .string name => some name
  | .table _ [(name, content)] =>
    match content with
    | .array [] | .table _ [] => some name
    | _ => none
  | _ => none

/-- The settings of a section, each if it is there. A date stands for a section without any. -/
def Value.settings? (value : Value) (names : List String) : Option (List (Option Value)) :=
  match value with
  | .table _ members => some (names.map fun name => members.lookup name)
  | .array items => some (names.mapIdx fun i _ => items[i]?)
  | .tables items => some (names.mapIdx fun i _ => items[i]?.map (.table .header))
  | .moment => some (names.map fun _ => none)
  | _ => none

/-- A setting, or its default. A setting that is there has to be well formed. -/
def setting {α : Type} (read : Value → Option α) (fallback : α) (value? : Option (Option Value)) :
    Option α :=
  match value? with
  | some (some value) => read value
  | _ => some fallback

end Toml

open Toml

/-- Reads the section on the chain. -/
def ChainConfig.ofValue? (value : Value) : Option ChainConfig := do
  let names := ["chain_id", "max_priority_fee_per_gas", "max_fee_per_gas", "gas_limit"]
  let settings ← value.settings? names
  let default : ChainConfig := {}
  some {
    chainId := ← setting Value.word? default.chainId settings[0]?
    maxPriorityFee := ← setting Value.text? default.maxPriorityFee settings[1]?
    maxFee := ← setting Value.text? default.maxFee settings[2]?
    gasLimit := ← setting Value.word? default.gasLimit settings[3]? }

/-- Reads the section on keys. -/
def KeyConfig.ofValue? (value : Value) : Option KeyConfig := do
  let settings ← value.settings? ["ecdsa_key", "pq_key_dir"]
  let default : KeyConfig := {}
  some {
    ecdsaKey := ← setting Value.text? default.ecdsaKey settings[0]?
    pqKeyDir := ← setting Value.text? default.pqKeyDir settings[1]? }

/-- Reads the name of a mode. -/
def SignerMode.ofValue? (value : Value) : Option SignerMode := do
  match ← value.choice? with
  | "in_process" => some .inProcess
  | "command" => some .command
  | _ => none

/-- Reads the section on the signer. -/
def SignerConfig.ofValue? (value : Value) : Option SignerConfig := do
  let settings ← value.settings? ["mode", "command", "args", "algorithm"]
  let default : SignerConfig := {}
  some {
    mode := ← setting SignerMode.ofValue? default.mode settings[0]?
    command := ← setting (fun v => v.text?.map some) default.command settings[1]?
    args := ← setting Value.texts? default.args settings[2]?
    algorithm := ← setting Value.text? default.algorithm settings[3]? }

/-- The configuration that a text spells. -/
def Config.read? (text : String) : Option Config := do
  let members ← Toml.read? text
  some {
    chain := ← setting ChainConfig.ofValue? {} (some (members.lookup "chain"))
    keys := ← setting KeyConfig.ofValue? {} (some (members.lookup "keys"))
    signer := ← setting SignerConfig.ofValue? {} (some (members.lookup "signer")) }

end HybridTx
