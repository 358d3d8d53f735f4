import HybridTx.Commands.Amount
import HybridTx.PostQuantum.Algorithm

/-! What a command line may hold: groups of commands, and for each command its options and what
stands without an option. -/

namespace HybridTx.Arguments

/-- The texts that can be a value. -/
inductive ValueKind
  | text
  | path
  | word
  | algorithm
deriving DecidableEq, Repr

/-- A text can be a value. A path has at least one character. -/
def ValueKind.accepts : ValueKind → String → Bool
  | text, _ => true
  | path, s => s ≠ ""
  | word, s => (readWord? s).isSome
  | algorithm, s => (PqAlgorithm.ofName s).toOption.isSome

/-- An option is there or not, has a value, or has a value each time it is given. -/
inductive OptionKind
  | flag
  | single (kind : ValueKind)
  | many (kind : ValueKind)
deriving DecidableEq, Repr

/-- An option: two hyphens and its name, or one hyphen and its letter. -/
structure OptionShape where
  name : String
  kind : OptionKind
  letter : Option Char := none
  required : Bool := false
deriving DecidableEq, Repr

namespace OptionShape

/-- The option has no value. -/
def isFlag (option : OptionShape) : Bool := option.kind == .flag

/-- A text can be a value of the option. -/
def accepts (option : OptionShape) (value : String) : Bool :=
  match option.kind with
  | .flag => true
  | .single kind | .many kind => kind.accepts value

/-- The option can be given again. -/
def isRepeatable (option : OptionShape) : Bool :=
  match option.kind with
  | .many _ => true
  | _ => false

end OptionShape

/-- A value that stands without an option. -/
structure Positional where
  kind : ValueKind
  required : Bool := true
deriving DecidableEq, Repr

/-- A group of commands by their names, or a command: its options, what stands without one, and the
pairs of options that exclude each other. -/
inductive Shape
  | group (children : List (String × Shape))
  | command (options : List OptionShape) (positionals : List Positional)
    (conflicts : List (String × String))

namespace Shape

/-- The member of a group with a given name. -/
def child? : Shape → String → Option Shape
  | group children, name => children.lookup name
  | command _ _ _, _ => none

/-- The shape has members. -/
def isGroup : Shape → Bool
  | group _ => true
  | command _ _ _ => false

/-- The options of a command. -/
def options : Shape → List OptionShape
  | group _ => []
  | command options _ _ => options

/-- What may stand at a place without an option. -/
def positional? : Shape → Nat → Option Positional
  | group _, _ => none
  | command _ positionals _, place => positionals[place]?

/-- The names lead to a member. -/
def hasPath : Shape → List String → Bool
  | _, [] => true
  | shape, name :: path =>
    match shape.child? name with
    | some child => child.hasPath path
    | none => shape.isGroup && name == "help" && path.isEmpty

end Shape

end HybridTx.Arguments
