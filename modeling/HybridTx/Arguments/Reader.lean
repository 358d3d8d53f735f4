import HybridTx.Arguments.Scan
import HybridTx.Commands.Basic

/-! The command line of the program. -/

namespace HybridTx.Arguments

/-- The options that stand anywhere. -/
def shared : Shared :=
  [{ name := "config", kind := .single .path, letter := some 'c' },
    { name := "verbose", kind := .flag, letter := some 'v' }]

/-- The options for the fields of a transaction. -/
def fieldOptions : List OptionShape :=
  [{ name := "chain-id", kind := .single .text }, { name := "nonce", kind := .single .word },
    { name := "max-priority-fee", kind := .single .text },
    { name := "max-fee", kind := .single .text }, { name := "gas-limit", kind := .single .word },
    { name := "to", kind := .single .text }, { name := "value", kind := .single .text },
    { name := "data", kind := .single .text }, { name := "access", kind := .many .text }]

/-- The options for the post-quantum step. -/
def pqOptions : List OptionShape :=
  [{ name := "key", kind := .single .path }, { name := "pq-key", kind := .single .path },
    { name := "pq-public-key", kind := .single .path },
    { name := "algorithm", kind := .single .algorithm }, { name := "no-pq", kind := .flag },
    { name := "require-pq", kind := .flag }]

/-- The commands on post-quantum keys. -/
def pqShape : Shape := .group
  [("generate-keypair", .command
      [{ name := "algorithm", kind := .single .algorithm, letter := some 'a' }]
      [{ kind := .path, required := false }] []),
    ("sign", .command [] [{ kind := .path }, { kind := .text }] []),
    ("verify", .command [] [{ kind := .path }, { kind := .text }, { kind := .text }] []),
    ("get-public-key", .command [] [{ kind := .path }] [])]

/-- The commands on classical keys. -/
def ecdsaShape : Shape := .group
  [("keygen", .command [{ name := "output", kind := .single .path, letter := some 'o' },
      { name := "force", kind := .flag }] [] []),
    ("address", .command [{ name := "key", kind := .single .path, letter := some 'k' }] [] [])]

/-- The commands on transactions. -/
def txShape : Shape := .group
  [("hash", .command (fieldOptions ++ [{ name := "payload", kind := .flag }]) [] []),
    ("build", .command (fieldOptions ++ pqOptions) [] [("no-pq", "require-pq")]),
    ("inspect", .command [] [{ kind := .text }] []),
    ("verify", .command [{ name := "sender", kind := .single .text, required := true }]
      [{ kind := .text }] [])]

/-- All commands. -/
def shape : Shape := .group [("pq", pqShape), ("ecdsa", ecdsaShape), ("tx", txShape)]

namespace Line

/-- The value of an option. -/
def value? (line : Line) (name : String) : Option String := line.options.lookup name

/-- An option is there. -/
def has (line : Line) (name : String) : Bool := (line.value? name).isSome

/-- The values of an option, in the order in which they were given. -/
def values (line : Line) (name : String) : List String :=
  (line.options.filterMap fun (n, value) => if n = name then some value else none).reverse

/-- The word that is the value of an option. -/
def word? (line : Line) (name : String) : Option UInt64 := (line.value? name).bind readWord?

/-- The algorithm that is the value of an option. -/
def algorithm? (line : Line) (name : String) : Option PqAlgorithm :=
  (line.value? name).bind fun text => (PqAlgorithm.ofName text).toOption

/-- The fields of a transaction. -/
def fields (line : Line) : FieldArgs where
  chainId := line.value? "chain-id"
  nonce := (line.word? "nonce").getD 0
  maxPriorityFee := line.value? "max-priority-fee"
  maxFee := line.value? "max-fee"
  gasLimit := line.word? "gas-limit"
  recipient := line.value? "to"
  value := (line.value? "value").getD "0"
  data := (line.value? "data").getD ""
  access := line.values "access"

/-- The choices of the post-quantum step. -/
def pqChoices (line : Line) : PqChoices where
  privateKey := line.value? "pq-key"
  publicKey := line.value? "pq-public-key"
  algorithm := line.algorithm? "algorithm"
  skip := line.has "no-pq"
  require := line.has "require-pq"

/-- The command of a line. -/
def command? (line : Line) : Option Command :=
  match line.path, line.positionals with
  | ["pq", "generate-keypair"], args =>
    some (.pqGenerate args.head? (line.algorithm? "algorithm"))
  | ["pq", "sign"], [privateKey, hash] => some (.pqSign privateKey hash)
  | ["pq", "verify"], [publicKey, hash, signature] => some (.pqVerify publicKey hash signature)
  | ["pq", "get-public-key"], [publicKey] => some (.pqShow publicKey)
  | ["ecdsa", "keygen"], _ => some (.ecdsaGenerate (line.value? "output") (line.has "force"))
  | ["ecdsa", "address"], _ => some (.ecdsaAddress (line.value? "key"))
  | ["tx", "hash"], _ => some (.hash line.fields (line.has "payload"))
  | ["tx", "build"], _ => some (.build line.fields (line.value? "key") line.pqChoices)
  | ["tx", "inspect"], [raw] => some (.inspect raw)
  | ["tx", "verify"], [raw] => (line.value? "sender").map (.verify raw)
  | _, _ => none

/-- What a line asks for. -/
def invocation? (line : Line) : Option Invocation := do
  some {
    config := (line.value? "config").getD "tandem.toml"
    verbose := line.has "verbose"
    command := ← line.command? }

end Line

/-- Reads the arguments of the program. -/
def read (args : List String) : Except Stop Invocation := do
  let line ← scan shared shape [] [] {} args
  match line.invocation? with
  | some invocation => .ok invocation
  | none => .error .usage

/-- The name and version of the program. -/
def versionText : String := "tandem 0.1.0"

/-- The help on the program. -/
def helpText : String := "Hybrid post-quantum transaction tool

Usage: tandem [OPTIONS] <COMMAND>

Commands:
  pq     Post-quantum keys and signatures: generate-keypair, sign, verify, get-public-key
  ecdsa  secp256k1 keys: keygen, address
  tx     Transactions: hash, build, inspect, verify

Options:
  -c, --config <CONFIG>  Configuration file path [default: tandem.toml]
  -v, --verbose          Verbose logging
  -h, --help             Print help
  -V, --version          Print version"

end HybridTx.Arguments
