import HybridTx.Bytes.Basic

/-! JSON values and how they are written: compactly, or one member a line with an indentation of two
blanks. -/

namespace HybridTx

/-- A JSON value. Numbers keep their digits, objects the order of their members. A string that is
not text, because half of a surrogate pair is missing in it, has no content. -/
inductive Json
  | null
  | bool (value : Bool)
  | number (digits : List Char)
  | string (content : Option String)
  | array (items : List Json)
  | object (members : List (Option String × Json))

namespace Json

/-- A number. -/
def ofNat (n : Nat) : Json := .number (Nat.toDigits 10 n)

/-- A string. -/
def ofString (text : String) : Json := .string (some text)

/-- A string, or null for none. -/
def ofString? : Option String → Json
  | some text => .string (some text)
  | none => .null

/-- An object from its members. -/
def ofMembers (members : List (String × Json)) : Json :=
  .object (members.map fun (name, value) => (some name, value))

/-- A character inside a string. -/
def escape (c : Char) : List Char :=
  if c = '"' then ['\\', '"']
  else if c = '\\' then ['\\', '\\']
  else if c = '\n' then ['\\', 'n']
  else if c = '\r' then ['\\', 'r']
  else if c = '\t' then ['\\', 't']
  else if c.toNat = 8 then ['\\', 'b']
  else if c.toNat = 12 then ['\\', 'f']
  else if c.toNat < 32 then
    ['\\', 'u', '0', '0', Nat.digitChar (c.toNat / 16), Nat.digitChar (c.toNat % 16)]
  else [c]

/-- A string in quotes. -/
def quoted (content : Option String) : List Char :=
  '"' :: (content.getD "").toList.flatMap escape ++ ['"']

mutual

/-- A value without any blanks. -/
def compact : Json → List Char
  | .null => ['n', 'u', 'l', 'l']
  | .bool true => ['t', 'r', 'u', 'e']
  | .bool false => ['f', 'a', 'l', 's', 'e']
  | .number digits => digits
  | .string content => quoted content
  | .array items => '[' :: compactItems items ++ [']']
  | .object members => '\x7b' :: compactMembers members ++ ['\x7d']

/-- The items of an array with commas between them. -/
def compactItems : List Json → List Char
  | [] => []
  | [item] => item.compact
  | item :: items => item.compact ++ ',' :: compactItems items

/-- The members of an object with commas between them. -/
def compactMembers : List (Option String × Json) → List Char
  | [] => []
  | [(name, value)] => quoted name ++ ':' :: value.compact
  | (name, value) :: members =>
    quoted name ++ ':' :: value.compact ++ ',' :: compactMembers members

end

/-- A new line at a level of indentation. -/
def newLine (level : Nat) : List Char := '\n' :: List.replicate (2 * level) ' '

mutual

/-- A value at a level of indentation, one member a line. -/
def indented (level : Nat) : Json → List Char
  | .array (item :: items) =>
    '[' :: indentedItems (level + 1) (item :: items) ++ newLine level ++ [']']
  | .object (member :: members) =>
    '\x7b' :: indentedMembers (level + 1) (member :: members) ++ newLine level ++ ['\x7d']
  | .null => ['n', 'u', 'l', 'l']
  | .bool true => ['t', 'r', 'u', 'e']
  | .bool false => ['f', 'a', 'l', 's', 'e']
  | .number digits => digits
  | .string content => quoted content
  | .array [] => ['[', ']']
  | .object [] => ['\x7b', '\x7d']

/-- Items, each on a line of its own. -/
def indentedItems (level : Nat) : List Json → List Char
  | [] => []
  | [item] => newLine level ++ item.indented level
  | item :: items => newLine level ++ item.indented level ++ ',' :: indentedItems level items

/-- Members, each on a line of its own. -/
def indentedMembers (level : Nat) : List (Option String × Json) → List Char
  | [] => []
  | [(name, value)] => newLine level ++ quoted name ++ ':' :: ' ' :: value.indented level
  | (name, value) :: members =>
    newLine level ++ quoted name ++ ':' :: ' ' :: value.indented level
      ++ ',' :: indentedMembers level members

end

/-- The compact text of a value. -/
def render (value : Json) : String := String.ofList value.compact

/-- The indented text of a value. -/
def renderIndented (value : Json) : String := String.ofList (value.indented 0)

end Json

end HybridTx
