import HybridTx.Arguments.Shape
import HybridTx.Text.Split

/-! Reading a command line against its shape. Options may stand at the command or at any group
before it. -/

namespace HybridTx.Arguments

/-- Why there is nothing to run: the line is wrong, or only help or the version is asked for. -/
inductive Stop
  | usage
  | help
  | version
deriving DecidableEq, Repr

/-- What was given at a group or command, the last first. -/
structure Level where
  options : List (String × String) := []
  positionals : List String := []
  closed : Bool := false

/-- A command line as it was read: the names of the groups and the command, the options, the last
and innermost first, and what stands without an option. -/
structure Line where
  path : List String
  options : List (String × String)
  positionals : List String
deriving DecidableEq, Repr

/-- What options there are everywhere. -/
abbrev Shared := List OptionShape

namespace Level

/-- Takes an option with its value. -/
def give (level : Level) (option : OptionShape) (value : String) : Except Stop Level :=
  if !option.accepts value then .error .usage
  else if !option.isRepeatable && (level.options.lookup option.name).isSome then .error .usage
  else .ok { level with options := (option.name, value) :: level.options }

/-- Takes a value that stands without an option. -/
def place (level : Level) (shape : Shape) (value : String) : Except Stop Level :=
  match shape.positional? level.positionals.length with
  | some positional =>
    if positional.kind.accepts value then
      .ok { level with positionals := value :: level.positionals }
    else .error .usage
  | none => .error .usage

/-- Takes the letters behind one hyphen, and tells the option whose value is still to come. A value
may follow the letter of its option directly or behind an equals sign. -/
def giveLetters (level : Level) (options : List OptionShape) (outermost : Bool) :
    List Char → Except Stop (Level × Option OptionShape)
  | [] => .ok (level, none)
  | letter :: rest =>
    match options.find? (·.letter == some letter) with
    | none =>
      if letter = 'h' then .error .help
      else if letter = 'V' ∧ outermost then .error .version
      else .error .usage
    | some option =>
      if option.isFlag then do
        (← level.give option "").giveLetters options outermost rest
      else
        match rest with
        | [] => .ok (level, some option)
        | '=' :: value => do .ok (← level.give option (String.ofList value), none)
        | value => do .ok (← level.give option (String.ofList value), none)

/-- Takes an option by its name, and tells it if its value is still to come. -/
def giveNamed (level : Level) (options : List OptionShape) (outermost : Bool) (name : String)
    (value? : Option String) : Except Stop (Level × Option OptionShape) :=
  match options.find? (·.name == name), value? with
  | some option, some value =>
    if option.isFlag then .error .usage else do .ok (← level.give option value, none)
  | some option, none =>
    if option.isFlag then do .ok (← level.give option "", none) else .ok (level, some option)
  | none, some _ => .error .usage
  | none, none =>
    if name = "help" then .error .help
    else if name = "version" ∧ outermost then .error .version
    else .error .usage

/-- The line is complete: a command was named, and nothing that it needs is missing. -/
def finish (level : Level) (shape : Shape) (path : List String) (outer : List (String × String)) :
    Except Stop Line :=
  match shape with
  | .group _ => .error .usage
  | .command options positionals conflicts =>
    let given (name : String) : Bool := (level.options.lookup name).isSome
    let needed := (positionals.filter (·.required)).length
    if level.positionals.length < needed then .error .usage
    else if options.any fun option => option.required && !given option.name then .error .usage
    else if conflicts.any fun (first, second) => given first && given second then .error .usage
    else .ok ⟨path, level.options ++ outer, level.positionals.reverse⟩

end Level

/-- A text that is read as an option. A lone hyphen is a value. -/
def isOptionLike (text : String) : Bool := text.startsWith "-" && text != "-"

/-- What an argument is. -/
inductive Argument
  | separator
  | named (name : String) (value? : Option String)
  | letters (letters : List Char)
  | plain

/-- Tells what an argument is by its hyphens. -/
def Argument.ofString (text : String) : Argument :=
  match text.toList with
  | ['-', '-'] => .separator
  | '-' :: '-' :: rest =>
    let (name, value?) := Text.cutAt '=' rest
    .named (String.ofList name) (value?.map String.ofList)
  | '-' :: letter :: rest => .letters (letter :: rest)
  | _ => .plain

/-- Reads on at a group or command. Behind a lone pair of hyphens nothing is an option. -/
def scan (shared : Shared) (shape : Shape) (path : List String) (outer : List (String × String))
    (level : Level) : List String → Except Stop Line
  | [] => level.finish shape path outer
  | arg :: rest =>
    if level.closed then do scan shared shape path outer (← level.place shape arg) rest
    else
      match shape.child? arg with
      | some child => scan shared child (path ++ [arg]) (level.options ++ outer) {} rest
      | none =>
        if arg = "help" ∧ shape.isGroup then
          if shape.hasPath rest then .error .help else .error .usage
        else
          let options := shape.options ++ shared
          let taken : Except Stop (Level × Option OptionShape) := match Argument.ofString arg with
            | .separator => .ok ({ level with closed := true }, none)
            | .named name value? => level.giveNamed options path.isEmpty name value?
            | .letters letters => level.giveLetters options path.isEmpty letters
            | .plain => (level.place shape arg).map (·, none)
          match taken, rest with
          | .error stop, _ => .error stop
          | .ok (level, none), rest => scan shared shape path outer level rest
          | .ok (_, some _), [] => .error .usage
          | .ok (level, some option), value :: rest =>
            if isOptionLike value then .error .usage
            else do scan shared shape path outer (← level.give option value) rest

end HybridTx.Arguments
