/-! Values of configuration texts, and tables as they are filled. A table keeps how it came about,
because that decides what may still be added to it. -/

namespace HybridTx.Toml

/-- How a table came about: written in braces, under a header, as a parent of a header's table, or
by keys with dots. -/
inductive TableKind
  | braces
  | header
  | parent
  | dotted
deriving DecidableEq, Repr

/-- A value. Of a fraction or a date only the kind matters here. -/
inductive Value
  | string (text : String)
  | integer (number : Int)
  | boolean (isTrue : Bool)
  | fraction
  | moment
  | array (items : List Value)
  | table (kind : TableKind) (members : List (String × Value))
  | tables (items : List (List (String × Value)))

/-- The members of a table, in the order in which they were added. -/
abbrev Members := List (String × Value)

namespace Members

/-- Puts a value in place of the one under a key. -/
def replace (members : Members) (key : String) (value : Value) : Members :=
  members.map fun (k, v) => if k = key then (k, value) else (k, v)

/-- Adds a member under a key that is not taken. -/
def add? (members : Members) (key : String) (value : Value) : Option Members :=
  match members.lookup key with
  | none => some (members ++ [(key, value)])
  | some _ => none

/-- Adds a member under a key with dots. Tables on the way are made, or were made by such keys or as
parents; the one that the member goes into was made by such keys alone. The last of an array of
tables can be passed through, but takes no member. -/
def insert? (members : Members) (key : String) (value : Value) : List String → Option Members
  | [] => members.add? key value
  | name :: path =>
    match members.lookup name with
    | none => do
      let inner ← insert? [] key value path
      some (members ++ [(name, .table .dotted inner)])
    | some (.table kind inner) =>
      if kind = .dotted ∨ kind = .parent ∧ path ≠ [] then do
        some (members.replace name (.table kind (← insert? inner key value path)))
      else none
    | some (.tables items) =>
      match items.getLast?, path with
      | some last, _ :: _ => do
        let last ← insert? last key value path
        some (members.replace name (.tables (items.dropLast ++ [last])))
      | _, _ => none
    | some _ => none

/-- Changes the table that the path of a header leads to. Tables on the way are made if need be, and
an array of tables stands for its last one. -/
def update? {α : Type} (change : Members → Option (α × Members)) :
    List String → Members → Option (α × Members)
  | [], members => change members
  | name :: path, members =>
    match members.lookup name with
    | none => do
      let (a, inner) ← update? change path []
      some (a, members ++ [(name, .table .parent inner)])
    | some (.table kind inner) =>
      if kind = .braces then none
      else do
        let (a, inner) ← update? change path inner
        some (a, members.replace name (.table kind inner))
    | some (.tables items) =>
      match items.getLast? with
      | none => none
      | some last => do
        let (a, last) ← update? change path last
        some (a, members.replace name (.tables (items.dropLast ++ [last])))
    | some _ => none

/-- Takes the table that a header opens out of its parent. Only a table that was made as a parent
may be there already. -/
def takeTable? (key : String) (members : Members) : Option (Members × Members) :=
  match members.lookup key with
  | none => some ([], members)
  | some (.table .parent inner) => some (inner, members.filter (·.1 ≠ key))
  | some _ => none

/-- Leaves room for one more table of an array of tables. -/
def openArray? (key : String) (members : Members) : Option (Unit × Members) :=
  match members.lookup key with
  | none => some ((), members ++ [(key, .tables [])])
  | some (.tables _) => some ((), members)
  | some _ => none

/-- Puts a finished table behind those of an array of tables. -/
def pushTable? (key : String) (table : Members) (members : Members) : Option (Unit × Members) :=
  match members.lookup key with
  | some (.tables items) => some ((), members.replace key (.tables (items ++ [table])))
  | _ => none

/-- Puts a finished table back into its parent. -/
def putTable? (key : String) (table : Members) (members : Members) : Option (Unit × Members) :=
  (members.add? key (.table .header table)).map ((), ·)

end Members

/-- A document as it is read: what is finished, and the table that is being filled, with its path.
Without a path it is the outermost table. -/
structure Draft where
  finished : Members := []
  path : List String := []
  isArray : Bool := false
  current : Members := []

namespace Draft

/-- Adds a member to the table that is being filled. -/
def insert? (draft : Draft) (path : List String) (key : String) (value : Value) : Option Draft := do
  some { draft with current := ← draft.current.insert? key value path }

/-- Finishes the table that is being filled. -/
def finish? (draft : Draft) : Option Members :=
  match draft.path.getLast? with
  | none => some draft.current
  | some key =>
    let change := if draft.isArray then Members.pushTable? key draft.current
      else Members.putTable? key draft.current
    (Members.update? change draft.path.dropLast draft.finished).map (·.2)

/-- Goes on with the table under a header. -/
def openTable? (draft : Draft) (path : List String) (key : String) : Option Draft := do
  let (current, finished) ← Members.update? (Members.takeTable? key) path (← draft.finish?)
  some { finished, path := path ++ [key], isArray := false, current }

/-- Goes on with a new table of an array of tables. -/
def openArray? (draft : Draft) (path : List String) (key : String) : Option Draft := do
  let ((), finished) ← Members.update? (Members.openArray? key) path (← draft.finish?)
  some { finished, path := path ++ [key], isArray := true, current := [] }

end Draft

end HybridTx.Toml
