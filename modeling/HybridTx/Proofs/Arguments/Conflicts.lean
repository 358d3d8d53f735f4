import HybridTx.Arguments.Reader
import HybridTx.Proofs.Results

/-! Options that exclude each other. A line that is read has options of its command and options that
stand anywhere, and no others; so where a command refuses two of its own options together, no line
has both. -/

namespace HybridTx.Arguments

/-- The member of a shape that names lead to. -/
def Shape.at? : Shape → List String → Option Shape
  | shape, [] => some shape
  | shape, name :: path => (shape.child? name).bind (·.at? path)

/-- What was given are options among these. -/
def AreAmong (given : List (String × String)) (options : List OptionShape) : Prop :=
  ∀ name value, (name, value) ∈ given → ∃ option ∈ options, option.name = name

section Level

variable {level next : Level} {options : List OptionShape} {option : OptionShape}

end Level

/-- What an argument is taken for that names no member: an option, whose value may still be to come,
or a value that stands without one. -/
def Level.take (level : Level) (shape : Shape) (options : List OptionShape) (outermost : Bool)
    (arg : String) : Except Stop (Level × Option OptionShape) :=
  match Argument.ofString arg with
  | .separator => .ok ({ level with closed := true }, none)
  | .named name value? => level.giveNamed options outermost name value?
  | .letters letters => level.giveLetters options outermost letters
  | .plain => (level.place shape arg).map (·, none)

/-- What was read so far below a shape: the names led to where the reader is, the options at the
groups before it may stand anywhere, and those given here belong here or may stand anywhere. -/
structure Reached (root : Shape) (shared : Shared) (shape : Shape) (path : List String)
    (outer : List (String × String)) (level : Level) : Prop where
  at_path : root.at? path = some shape
  outer_among : AreAmong outer shared
  level_among : AreAmong level.options (shape.options ++ shared)

/-- Reading on at the same place. -/
theorem Reached.advance {root shape : Shape} {shared : Shared} {path : List String}
    {outer : List (String × String)} {level next : Level}
    (h : Reached root shared shape path outer level)
    (hnext : AreAmong next.options (shape.options ++ shared)) :
    Reached root shared shape path outer next :=
  { h with level_among := hnext }

end HybridTx.Arguments
