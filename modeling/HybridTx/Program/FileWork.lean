import HybridTx.Program.Plain

/-! Programs that list, make, copy, move, remove and compare files. -/

namespace HybridTx.Program

variable {m : Type → Type} [Monad m]

/-- A directory is at a path. -/
def isDirectory (path : Octets) : Act m Bool := do
  let place ← located path
  onFiles (·.isDir place)

/-- Something is at a path. -/
def isPresent (path : Octets) : Act m Bool := do
  let place ← located path
  onFiles (·.isPresent place)

/-- Runs an action for each of some, and gives the worst status. -/
def worst (items : List Octets) (action : Octets → Act m Nat) : Act m Nat := do
  return (← items.mapM action).foldl max 0

/-- A path below a directory. -/
def below (directory name : Octets) : Octets := Path.join directory name

/-- The names in a directory, in order. -/
def namesIn (path : Octets) : Act m (Except FileError (List Octets)) := do
  let place ← located path
  return (← onFiles (·.entries place)).map fun names =>
    (names.map Octets.ofText).mergeSort (· ≤ ·)

/-- Why there is nothing at a path, if that is so. -/
def missing? (path : Octets) : Act m (Option FileError) := do
  if ← isDirectory path then return none
  match ← readFile path with
  | .ok _ => pure none
  | .error e => pure (some e)

/-! Listing -/

/-- Lists directories. Files go before directories, and hidden names are left out. -/
def ls : Routine m := fun args =>
  let table : OptionTable :=
    { flags := "aA1dRrtSlFhptgonisCxU".toList, long := [("all", 'a'), ("almost-all", 'A')] }
  withOptions table 2 args fun given => do
    let paths := (if given.operands = [] then ["."] else given.operands).mergeSort (· ≤ ·)
    let sorted (names : List Octets) := if given.has 'r' then names.reverse else names
    let (found, status) ← paths.foldlM (fun (found, status) path => do
      match ← missing? path with
      | none => pure (found ++ [path], status)
      | some e => do
        complain ("cannot access " ++ quote path ++ ": " ++ e.reason)
        pure (found, 2)) (([] : List Octets), 0)
    let directories ← if given.has 'd' then pure [] else found.filterM isDirectory
    let files := found.filter (· ∉ directories)
    putLines (sorted files)
    let titled := paths.length > 1
    let _ ← (sorted directories).foldlM (fun (first : Bool) path => do
      let names := ((← namesIn path).toOption).getD []
      let names := names.filter fun name =>
        given.has 'a' || given.has 'A' || !name.startsWith "."
      let names := if given.has 'a' then "." :: ".." :: names else names
      if titled then put ((if first then "" else "\n") ++ path ++ ":\n")
      putLines (sorted names)
      pure false) files.isEmpty
    pure status

/-! Making -/

/-- The paths that lead to a path, from the first name on. -/
def leadingPaths (path : Octets) : List Octets :=
  let parts := path.splitOn "/"
  ((List.range parts.length).map fun n => "/".intercalate (parts.take (n + 1))).filter (· ≠ "")

/-- The first path on the way to a path at which no directory is. -/
def obstacle (path : Octets) : Act m Octets := do
  return (← (leadingPaths path).filterM fun part => do return !(← isDirectory part)).headD path

/-- Makes directories. -/
def mkdir : Routine m := fun args =>
  let table : OptionTable :=
    { flags := ['p', 'v'], valued := ['m'], long := [("parents", 'p'), ("mode", 'm')] }
  withOptions table 1 args fun given => do
    if given.operands = [] then return ← refuseUsage "missing operand" 1
    worst given.operands fun path => do
      let place ← located path
      let made ← if given.has 'p' then onFiles (·.makeDirs place) else onFiles (·.makeDir place)
      match made with
      | .ok () => pure 0
      | .error e =>
        let path ← if given.has 'p' then obstacle path else pure path
        refuse ("cannot create directory " ++ quote path ++ ": " ++ e.reason) 1

/-- Makes files, with nothing in them, unless they are there. -/
def touch : Routine m := fun args =>
  let table : OptionTable := { flags := ['a', 'c', 'm'], valued := ['d', 'r', 't'] }
  withOptions table 1 args fun given => do
    if given.operands = [] then return ← refuseUsage "missing file operand" 1
    worst given.operands fun path => do
      let some missing ← missing? path | return 0
      if given.has 'c' then return 0
      match ← writeFile path "" with
      | .ok () => pure 0
      | .error .isDirectory =>
        refuse ("setting times of " ++ quote path ++ ": " ++ missing.reason) 1
      | .error e => refuse ("cannot touch " ++ quote path ++ ": " ++ e.reason) 1

/-- Makes a file or directory with a name of its own, and writes its path. -/
def mktemp : Routine m := fun args =>
  let table : OptionTable :=
    { flags := ['d', 'u', 'q', 't'], valued := ['p'], long := [("directory", 'd')] }
  withOptions table 1 args fun given => do
    let template := given.operands.headD "tmp.XXXXXXXXXX"
    let stem := (template.toList.reverse.dropWhile (· = 'X')).reverse
    let count := template.length - stem.length
    if count < 3 then return ← refuse ("too few X's in template " ++ quote template) 1
    let inPlace := given.operands = [] || given.has 'p' || given.has 't'
    let home := ((← readThe (Site m)).bindings.lookup "TMPDIR").getD "/tmp"
    let directory := if inPlace then some ((given.value? 'p').getD home) else none
    let path (n : Nat) : Octets :=
      let digits := toString n
      let name := String.ofList stem ++ String.ofList (List.replicate (count - digits.length) 'x')
        ++ digits
      match directory with
      | some directory => below directory name
      | none => name
    let free ← (List.range 100).filterM fun n => do return !(← isPresent (path n))
    let path := path (free.headD 0)
    let place ← located path
    let made ← if given.has 'd' then onFiles (·.makeDirs place)
      else do
        match directory with
        | some directory =>
          let parent ← located directory
          let _ ← onFiles (·.makeDirs parent)
        | none => pure ()
        onFiles (·.write place [])
    match made with
    | .ok () => do
      putLines [path]
      pure 0
    | .error e =>
      refuse ("failed to create file via template " ++ quote template ++ ": " ++ e.reason) 1

/-- The mode is one that files can have. -/
def isMode (text : Octets) : Bool :=
  (text ≠ "" && text.all isOctalDigit && text.length ≤ 5) ||
    (text.splitOn ",").all fun clause =>
      let rest := clause.toList.dropWhile (· ∈ ['u', 'g', 'o', 'a'])
      match rest with
      | c :: letters => c ∈ ['+', '-', '='] && letters.all (· ∈ "rwxXstugo".toList)
      | [] => false

/-- Gives files a mode. Only whether the owner alone has them is remembered. -/
def chmod : Routine m := fun args => do
  let options := args.takeWhile fun arg => arg ∈ ["-R", "-f", "-v", "-c", "--"]
  match args.drop options.length with
  | [] => refuseUsage "missing operand" 1
  | [mode] => refuseUsage ("missing operand after " ++ quote mode) 1
  | mode :: paths =>
    if !isMode mode then return ← refuseUsage ("invalid mode: " ++ quote mode) 1
    worst paths fun path => do
      match ← missing? path with
      | some e => refuse ("cannot access " ++ quote path ++ ": " ++ e.reason) 1
      | none => do
        if mode ∈ ["600", "0600", "go=", "go-rwx", "u=rw,go="] then
          let place ← located path
          let _ ← onFiles (·.restrict place)
        pure 0

/-! Removing -/

/-- Removes a file, or a directory with all below it. -/
def removeAll : (depth : Nat) → Octets → Act m (Except FileError Unit)
  | 0, _ => pure (.error .notEmpty)
  | depth + 1, path => do
    let place ← located path
    if ← isDirectory path then
      for name in ((← namesIn path).toOption).getD [] do
        let _ ← removeAll depth (below path name)
      onFiles (·.removeDir place)
    else onFiles (·.remove place)

/-- How deep directories may be nested. -/
def treeDepth : Nat := 256

/-- A path ends in the name of the directory that it is in, or of the one above. -/
def endsInDots (path : Octets) : Bool :=
  match ((path.splitOn "/").filter (· ≠ "")).getLast? with
  | some name => name = "." || name = ".."
  | none => false

/-- Removes files. -/
def rm : Routine m := fun args =>
  let table : OptionTable :=
    { flags := ['f', 'i', 'I', 'r', 'R', 'd', 'v']
      long := [("force", 'f'), ("recursive", 'r'), ("verbose", 'v')] }
  withOptions table 1 args fun given => do
    if given.operands = [] then
      return ← if given.has 'f' then pure 0 else refuseUsage "missing operand" 1
    worst given.operands fun path => do
      match ← missing? path with
      | some e =>
        if given.has 'f' ∧ (e = .notFound ∨ e = .notDirectory) then pure 0
        else refuse ("cannot remove " ++ quote path ++ ": " ++ e.reason) 1
      | none =>
        let deep := given.has 'r' || given.has 'R'
        let isDirectory ← isDirectory path
        if isDirectory && !deep && !given.has 'd' then
          return ← refuse ("cannot remove " ++ quote path ++ ": Is a directory") 1
        if isDirectory && endsInDots path then
          return ← refuse ("refusing to remove '.' or '..' directory: skipping " ++ quote path) 1
        let place ← located path
        let removed ← if isDirectory && !deep then onFiles (·.removeDir place)
          else removeAll treeDepth path
        match removed with
          | .ok () => do
            if given.has 'v' then
              putLines ["removed " ++ (if isDirectory then "directory " else "") ++ quote path]
            pure 0
          | .error e => refuse ("cannot remove " ++ quote path ++ ": " ++ e.reason) 1

/-- Removes empty directories. -/
def rmdir : Routine m := fun args =>
  withOptions { flags := ['p', 'v'] } 1 args fun given => do
    if given.operands = [] then return ← refuseUsage "missing operand" 1
    worst given.operands fun path => do
      let place ← located path
      match ← onFiles (·.removeDir place) with
      | .ok () => pure 0
      | .error e => refuse ("failed to remove " ++ quote path ++ ": " ++ e.reason) 1

/-! Copying and moving -/

/-- Copies a file, or a directory with all below it. -/
def copyAll : (depth : Nat) → (source target : Octets) → Act m Nat
  | 0, _, _ => pure 1
  | depth + 1, source, target => do
    if ← isDirectory source then
      let place ← located target
      if !(← isDirectory target) then
        match ← onFiles (·.makeDir place) with
        | .ok () => pure ()
        | .error e =>
          return ← refuse ("cannot create directory " ++ quote target ++ ": " ++ e.reason) 1
      let names := ((← namesIn source).toOption).getD []
      return (← names.mapM fun name =>
        copyAll depth (below source name) (below target name)).foldl max 0
    else match ← readFile source with
      | .error e => refuse ("cannot open " ++ quote source ++ " for reading: " ++ e.reason) 1
      | .ok text => match ← writeFile target text with
        | .ok () => pure 0
        | .error e =>
          let e := if e = .isDirectory ∧ target.endsWith "/" then .notDirectory else e
          refuse ("cannot create regular file " ++ quote target ++ ": " ++ e.reason) 1

/-- Sorts out the operands of a copy: the sources, and where each goes. -/
def withTargets (given : Given) (action : (source target : Octets) → Act m Nat) : Act m Nat := do
  let operands := match given.value? 't' with
    | some directory => given.operands ++ [directory]
    | none => given.operands
  match operands with
  | [] => refuseUsage "missing file operand" 1
  | [only] => refuseUsage ("missing destination file operand after " ++ quote only) 1
  | operands =>
    let sources := operands.dropLast
    let target := operands.getLast?.getD ""
    if (← isDirectory target) && !given.has 'T' then
      worst sources fun source => action source (below target (baseName source ""))
    else match sources with
      | [source] => match ← missing? target with
        | some .notDirectory =>
          if target.endsWith "/" then
            refuse ("cannot stat " ++ quote target ++ ": Not a directory") 1
          else action source target
        | _ => action source target
      | _ => match ← missing? target with
        | some e => refuse ("target " ++ quote target ++ ": " ++ e.reason) 1
        | none => refuse ("target " ++ quote target ++ ": Not a directory") 1

/-- Copies files. -/
def cp : Routine m := fun args =>
  let table : OptionTable :=
    { flags := "afinprRTuvLPdHx".toList, valued := ['t']
      long := [("recursive", 'r'), ("force", 'f'), ("archive", 'a')] }
  withOptions table 1 args fun given => do
    let deep := given.has 'r' || given.has 'R' || given.has 'a'
    withTargets given fun source target => do
      match ← missing? source with
      | some e => refuse ("cannot stat " ++ quote source ++ ": " ++ e.reason) 1
      | none =>
        if (← isDirectory source) && !deep then
          refuse ("-r not specified; omitting directory " ++ quote source) 1
        else if (← located source) = (← located target) then
          refuse (quote source ++ " and " ++ quote target ++ " are the same file") 1
        else if (← located target).startsWith ((← located source) ++ "/") then
          let place ← located target
          let _ ← onFiles (·.makeDirs place)
          refuse ("cannot copy a directory, " ++ quote source ++ ", into itself, "
            ++ quote target) 1
        else if given.has 'n' && (← isPresent target) then pure 0
        else do
          if given.has 'v' then putLines [quote source ++ " -> " ++ quote target]
          copyAll treeDepth source target

/-- Moves files. -/
def mv : Routine m := fun args =>
  let table : OptionTable := { flags := ['f', 'i', 'n', 'u', 'v', 'T'], valued := ['t'] }
  withOptions table 1 args fun given =>
    withTargets given fun source target => do
      match ← missing? source with
      | some e => refuse ("cannot stat " ++ quote source ++ ": " ++ e.reason) 1
      | none => do
        let from' ← located source
        let newPlace ← located target
        if from' = newPlace then
          refuse (quote source ++ " and " ++ quote target ++ " are the same file") 1
        else if given.has 'n' && (← isPresent target) then pure 0
        else if (← isDirectory source) && (← isPresent target) && !(← isDirectory target) then
          refuse ("cannot overwrite non-directory " ++ quote target ++ " with directory "
            ++ quote source) 1
        else if !(← isDirectory source) && (← isDirectory target) then
          refuse ("cannot overwrite directory " ++ quote target ++ " with non-directory") 1
        else match ← onFiles (·.rename from' newPlace) with
          | .ok () => do
            if given.has 'v' then putLines ["renamed " ++ quote source ++ " -> " ++ quote target]
            pure 0
          | .error .invalid =>
            refuse ("cannot move " ++ quote source ++ " to a subdirectory of itself, "
              ++ quote target) 1
          | .error .notEmpty =>
            refuse ("cannot overwrite " ++ quote target ++ ": Directory not empty") 1
          | .error e =>
            refuse ("cannot move " ++ quote source ++ " to " ++ quote target ++ ": " ++ e.reason) 1

/-! Comparing -/

/-- Compares two files byte by byte. -/
def cmp : Routine m := fun args =>
  withOptions { flags := ['s', 'l', 'b'], long := [("silent", 's'), ("quiet", 's')] } 2 args
    fun given => do
    match given.operands with
    | first :: rest =>
      let second := rest.headD "-"
      let faulty (path : Octets) (e : FileError) : Act m Nat := do
        if !given.has 's' then complainOf path e
        pure 2
      match ← readOperand first, ← readOperand second with
      | .error e, _ => faulty first e
      | _, .error e => faulty second e
      | .ok a, .ok b => do
        let a := a.toList
        let b := b.toList
        let same := ((a.zip b).takeWhile fun (x, y) => x = y).length
        if same < a.length ∧ same < b.length then
          if !given.has 's' then
            let line := (a.take same).count '\n' + 1
            putLines [first ++ " " ++ second ++ " differ: char " ++ toString (same + 1) ++ ", line "
              ++ toString line]
          pure 1
        else if a.length = b.length then pure 0
        else do
          let shorter := if a.length < b.length then first else second
          if !given.has 's' then
            if same = 0 then complain ("EOF on " ++ quotePath shorter ++ " which is empty")
            else
              let shared := a.take same
              let line := shared.count '\n'
              let place := if shared.getLast? = some '\n' then "line " ++ toString line
                else "in line " ++ toString (line + 1)
              complain ("EOF on " ++ quotePath shorter ++ " after byte " ++ toString same ++ ", "
                ++ place)
          pure 1
    | [] => refuseUsage "missing operand after 'cmp'" 2

end HybridTx.Program
