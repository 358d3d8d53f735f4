import HybridTx.Text.Octets

/-! The options of a script, as they are read from arguments and listed. -/

namespace HybridTx.Script

namespace Options

/-- The options with letters, by their names. -/
def lettered : List (String × Char) :=
  [("errexit", 'e'), ("noglob", 'f'), ("ignoreeof", 'I'), ("interactive", 'i'), ("monitor", 'm'),
    ("noexec", 'n'), ("stdin", 's'), ("xtrace", 'x'), ("verbose", 'v'), ("vi", 'V'), ("emacs", 'E'),
    ("noclobber", 'C'), ("allexport", 'a'), ("notify", 'b'), ("nounset", 'u'), ("privileged", 'p')]

/-- The letters of options. -/
def letters : List Char := lettered.map (·.2)

/-- All options by their names; two of them have no letter, and nothing comes of them. -/
def named : List (String × Char) := lettered ++ [("nolog", '\x01'), ("debug", '\x02')]

/-- Turns an option on or off. -/
def turn (options : List Char) (letter : Char) (on : Bool) : List Char :=
  if on then letter :: options.filter (· ≠ letter) else options.filter (· ≠ letter)

/-- The list of all options and whether they are on. -/
def listing (options : List Char) : Octets :=
  let rows := named.map fun (name, letter) =>
    name ++ String.ofList (List.replicate (16 - name.length) ' ')
      ++ (if letter ∈ options then "on\n" else "off\n")
  "Current option settings\n" ++ String.join rows

/-- The list of all options as commands that set them. -/
def commands (options : List Char) : Octets :=
  String.join (named.map fun (name, letter) =>
    (if letter ∈ options then "set -o " else "set +o ") ++ name ++ "\n")

end Options

/-- What was read of the options among arguments. -/
structure OptionReading where
  /-- The options that are on. -/
  options : List Char
  /-- A text of commands is to follow. -/
  isCommand : Bool := false
  /-- The parameters are to be replaced even if none follow. -/
  isCut : Bool := false
  /-- The lists that were asked for: all options, or commands that set them. -/
  lists : List Bool := []
  rest : List Octets
deriving Repr

namespace OptionReading

/-- Reads the letters of one argument behind its sign. What cannot be read is told. -/
def addLetters (starting on : Bool) (reading : OptionReading) :
    List Char → Except Octets OptionReading
  | [] => .ok reading
  | 'o' :: letters =>
    match reading.rest with
    | [] => addLetters starting on { reading with lists := reading.lists ++ [on] } letters
    | name :: rest =>
      match Options.named.lookup name with
      | some letter =>
        let options := Options.turn reading.options letter on
        addLetters starting on { reading with options, rest } letters
      | none => .error ("Illegal option -o " ++ name)
  | letter :: letters =>
    if letter = 'c' ∧ starting then
      addLetters starting on { reading with isCommand := true } letters
    else if letter = 'l' ∧ starting then addLetters starting on reading letters
    else if letter ∈ Options.letters then
      let options := Options.turn reading.options letter on
      addLetters starting on { reading with options } letters
    else .error ("Illegal option -" ++ String.singleton letter)

/-- Reads options up to the first argument that is none. -/
def addAll (starting : Bool) : (fuel : Nat) → OptionReading → Except Octets OptionReading
  | 0, reading => .ok reading
  | fuel + 1, reading => do
    match reading.rest with
    | [] => .ok reading
    | arg :: rest =>
      let after := { reading with rest }
      match arg.toList with
      | ['-'] =>
        if starting then .ok after
        else .ok { after with options := reading.options.filter fun c => c ≠ 'x' ∧ c ≠ 'v' }
      | ['-', '-'] => .ok { after with isCut := true }
      | '-' :: letters => addAll starting fuel (← addLetters starting true after letters)
      | '+' :: letters => addAll starting fuel (← addLetters starting false after letters)
      | _ => .ok reading

/-- Reads the options among arguments, with those that are on already. At the start of a script a
text of commands may be asked for. -/
def ofArguments (starting : Bool) (options : List Char) (args : List Octets) :
    Except Octets OptionReading :=
  addAll starting (args.length + 1) { options, rest := args }

end OptionReading

end HybridTx.Script
