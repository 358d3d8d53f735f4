import HybridTx.Files.FileSystem

/-! A file system held in memory, on which commands can be rehearsed. Directories hold files and
directories, and there are no links. -/

namespace HybridTx

/-- What stands at a place of the tree. -/
inductive Node
  | directory
  | file (content : Bytes) (ownerOnly : Bool)
deriving DecidableEq

/-- The names on the way from the root. -/
abbrev Location := List String

/-- Everything below the root, and the directory at which relative paths start. -/
structure Tree where
  nodes : List (Location × Node) := []
  workDir : Location := []

namespace Tree

/-- The directories that every system has. -/
def systemDirectories : List Location :=
  ["bin", "boot", "dev", "etc", "home", "lib", "media", "mnt", "opt", "proc", "root", "run", "sbin",
    "srv", "sys", "tmp", "usr", "var"].map ([·]) ++
  ["bin", "include", "lib", "local", "sbin", "share", "src"].map (["usr", ·]) ++
  ["bin", "lib", "sbin", "share"].map (["usr", "local", ·]) ++
  ["cache", "lib", "log", "spool", "tmp"].map (["var", ·])

/-- The tree of a system with some directories of its own. The sink of all output is an empty
file. -/
def ofSystem (own : List Location) (workDir : Location) : Tree where
  nodes := (["dev", "null"], .file [] false) :: (systemDirectories ++ own).map (·, .directory)
  workDir

/-- What a path leads to: a directory that was walked into, or a name in a directory, perhaps with a
slash behind it. -/
inductive Place
  | directory (location : Location)
  | entry (inside : Location) (name : String) (slash : Bool)

/-- The root is always there. -/
def node? (tree : Tree) (location : Location) : Option Node :=
  if location = [] then some .directory else tree.nodes.lookup location

/-- Puts a node at a place, over what was there. -/
def put (tree : Tree) (location : Location) (node : Node) : Tree :=
  { tree with nodes := (location, node) :: tree.nodes.filter (·.1 ≠ location) }

/-- Names have at most 255 bytes. -/
def isLong (name : String) : Bool := name.utf8ByteSize > 255

/-- Walks from a directory into each name in turn. -/
def descend (tree : Tree) (location : Location) : List String → Except FileError Location
  | [] => .ok location
  | "." :: rest => tree.descend location rest
  | ".." :: rest => tree.descend location.dropLast rest
  | name :: rest =>
    if isLong name then .error .nameTooLong
    else match tree.node? (location ++ [name]) with
      | none => .error .notFound
      | some (.file _ _) => .error .notDirectory
      | some .directory => tree.descend (location ++ [name]) rest

/-- The names in a path. -/
def names (path : Path) : List String := (path.splitOn "/").filter (· ≠ "")

/-- What a path leads to. All names but the last must be directories. -/
def place (tree : Tree) (path : Path) : Except FileError Place := do
  if path.contains '\x00' then throw .nulInName
  if path = "" then throw .notFound
  if path.utf8ByteSize > 4095 then throw .nameTooLong
  let names := names path
  let start := if path.startsWith "/" then [] else tree.workDir
  match names.getLast? with
  | none => .ok (.directory start)
  | some name =>
    if name = "." ∨ name = ".." then .directory <$> tree.descend start names
    else
      let inside ← tree.descend start names.dropLast
      .ok (.entry inside name (path.endsWith "/"))

/-- What stands in a directory under a name. A name that is too long is not even looked up. -/
def lookUp (tree : Tree) (inside : Location) (name : String) : Except FileError (Option Node) :=
  if isLong name then .error .nameTooLong else .ok (tree.node? (inside ++ [name]))

/-- What stands at a path. A file has no slash behind its name. -/
def find (tree : Tree) (path : Path) : Except FileError Node := do
  match ← tree.place path with
  | .directory _ => .ok .directory
  | .entry inside name slash =>
    match ← tree.lookUp inside name, slash with
    | none, _ => .error .notFound
    | some (.file _ _), true => .error .notDirectory
    | some node, _ => .ok node

/-- All bytes of a file. -/
def read (tree : Tree) (path : Path) : Except FileError Bytes := do
  match ← tree.find path with
  | .directory => .error .isDirectory
  | .file content _ => .ok content

/-- Makes a file, or replaces what it holds and leaves its owner's choice alone. A name with a slash
behind it can only be that of a directory, so it is refused before it is looked up. -/
def write (tree : Tree) (path : Path) (content : Bytes) : Except FileError Tree := do
  match ← tree.place path with
  | .directory _ | .entry _ _ true => .error .isDirectory
  | .entry inside name false =>
    match ← tree.lookUp inside name with
    | some .directory => .error .isDirectory
    | none => .ok (tree.put (inside ++ [name]) (.file content false))
    | some (.file _ ownerOnly) => .ok (tree.put (inside ++ [name]) (.file content ownerOnly))

/-- Leaves a file to its owner alone. -/
def restrict (tree : Tree) (path : Path) : Except FileError Tree := do
  match ← tree.place path, ← tree.find path with
  | .entry inside name _, .file content _ => .ok (tree.put (inside ++ [name]) (.file content true))
  | _, _ => .ok tree

/-- Makes one directory. -/
def makeDir (tree : Tree) (path : Path) : Except FileError Tree := do
  match ← tree.place path with
  | .directory _ => .error .alreadyExists
  | .entry inside name _ =>
    if (← tree.lookUp inside name).isSome then .error .alreadyExists
    else .ok (tree.put (inside ++ [name]) .directory)

/-- Takes a node away from its place. -/
def drop (tree : Tree) (location : Location) : Tree :=
  { tree with nodes := tree.nodes.filter (·.1 ≠ location) }

/-- The names in the directory at a location. -/
def children (tree : Tree) (location : Location) : List String :=
  tree.nodes.filterMap fun (place, _) =>
    if place.dropLast = location then place.getLast? else none

/-- The names in the directory at a path. -/
def entries (tree : Tree) (path : Path) : Except FileError (List String) := do
  match ← tree.place path, ← tree.find path with
  | .directory location, _ => .ok (tree.children location)
  | .entry inside name _, .directory => .ok (tree.children (inside ++ [name]))
  | _, _ => .error .notDirectory

/-- Removes a file. -/
def remove (tree : Tree) (path : Path) : Except FileError Tree := do
  match ← tree.place path, ← tree.find path with
  | .entry inside name _, .file _ _ => .ok (tree.drop (inside ++ [name]))
  | _, _ => .error .isDirectory

/-- Removes a directory with nothing in it. It must be named, and not walked into. -/
def removeDir (tree : Tree) (path : Path) : Except FileError Tree := do
  match ← tree.place path with
  | .directory _ =>
    match (names path).getLast? with
    | some "." => .error .invalid
    | some _ => .error .notEmpty
    | none => .error .busy
  | .entry inside name _ =>
    match ← tree.find path with
    | .directory =>
      let location := inside ++ [name]
      if tree.children location = [] then .ok (tree.drop location) else .error .notEmpty
    | .file _ _ => .error .notDirectory

/-- Moves a node, with all below it. -/
def move (tree : Tree) (source target : Location) : Tree :=
  { tree with nodes := tree.nodes.map fun (place, node) =>
      if source.isPrefixOf place = true then (target ++ place.drop source.length, node)
      else (place, node) }

/-- Gives a file or directory, with all below it, another path. A file takes the place of a file and
a directory that of an empty directory. Only a directory may have a slash behind its name, and none
moves below itself or over one that it is below. -/
def rename (tree : Tree) (source target : Path) : Except FileError Tree := do
  match ← tree.place source, ← tree.place target with
  | .entry inside name slash, .entry inside' name' slash' =>
    let location := inside ++ [name]
    let location' := inside' ++ [name']
    let some node ← tree.lookUp inside name | throw .notFound
    let present? ← tree.lookUp inside' name'
    if node ≠ .directory ∧ (slash ∨ slash') then throw .notDirectory
    if location.isPrefixOf inside' then throw .invalid
    if location'.isPrefixOf inside then throw .notEmpty
    if location = location' then return tree
    match node, present? with
    | .file _ _, some .directory => .error .isDirectory
    | .directory, some (.file _ _) => .error .notDirectory
    | .directory, some .directory =>
      if tree.children location' = [] then
        .ok ((tree.drop location').move location location')
      else .error .notEmpty
    | _, _ => .ok ((tree.drop location').move location location')
  | _, _ => .error .busy

/-- What stands below a directory, each with the names that lead there from the directory. -/
def below (tree : Tree) (location : Location) : List (Location × Node) :=
  tree.nodes.filterMap fun (place, node) =>
    if place ≠ location ∧ location.isPrefixOf place then some (place.drop location.length, node)
    else none

/-- Whether a directory is at a path. -/
def isDir (tree : Tree) (path : Path) : Bool :=
  match tree.find path with
  | .ok .directory => true
  | _ => false

variable (m : Type → Type) [Monad m] [MonadStateOf Tree m]

/-- Changes the tree unless the change fails. -/
def change (step : Tree → Except FileError Tree) : m (Except FileError Unit) := do
  match step (← getThe Tree) with
  | .error e => pure (.error e)
  | .ok tree => do
    set tree
    pure (.ok ())

/-- The tree as a file system. -/
def fileSystem : FileSystem m where
  read path := do pure ((← getThe Tree).read path)
  write path content := change m (·.write path content)
  restrict path := change m (·.restrict path)
  makeDir path := change m (·.makeDir path)
  isPresent path := do pure (((← getThe Tree).find path).toOption.isSome)
  isDir path := do pure ((← getThe Tree).isDir path)
  entries path := do pure ((← getThe Tree).entries path)
  remove path := change m (·.remove path)
  removeDir path := change m (·.removeDir path)
  rename source target := change m (·.rename source target)

/-- The tree as a disk. -/
def disk : Disk m := (fileSystem m).toDisk

end Tree

end HybridTx
