import HybridTx.Script.Expand

/-! Redirections: where the streams of a command go to and come from while it runs. -/

namespace HybridTx.Script

/-- A target whose words were filled in. -/
inductive Opening
  | file (path : Octets) (access : Access)
  | same (stream : Nat)
  | close
  | document (body : Word)

/-- What is said of a file that cannot be opened. -/
def openMessage (path : Octets) (access : Access) (fault : FileError) : Octets :=
  let start := if access = .read then "cannot open " else "cannot create "
  start ++ path ++ ": " ++ match fault, access with
    | .notFound, .read | .notDirectory, .read => "No such file"
    | .notFound, _ | .notDirectory, _ => "Directory nonexistent"
    | fault, _ => fault.reason

variable {m : Type → Type} [Monad m] (runner : Runner m)

/-- Fills in the words of a target. -/
def expandTarget (target : Target) : Play m Opening := do
  let path (word : Word) := expandText runner .whole word
  match target with
  | .read word => return .file (← path word) .read
  | .write word force => return .file (← path word) (.write force)
  | .append word => return .file (← path word) .append
  | .readWrite word => return .file (← path word) .readWrite
  | .document body => pure (.document body)
  | .same word => match (← path word).toList with
    | ['-'] => pure .close
    | [c] =>
      if c.isDigit then pure (.same (c.toNat - 48)) else fault "Syntax error: Bad fd number" 2
    | _ => fault "Syntax error: Bad fd number" 2

/-- Fills in the words of redirections. -/
def expandRedirects (redirects : List Redirect) : Play m (List (Nat × Opening)) :=
  redirects.mapM fun
    | .mk stream target => do return (stream, ← expandTarget runner target)

/-- The place of what a redirection opens, if anything is to be open. -/
def openTarget : Opening → Play m (Option Nat)
  | .file path access => do
    match ← openFile path access with
    | .ok place => pure (some place)
    | .error e => fault (openMessage path access e) 2
  | .same stream => do
    match ← placeOf? stream with
    | some place => pure (some place)
    | none => fault (toString stream ++ ": Bad file descriptor") 2
  | .close => pure none
  | .document body => do
    let content ← expandText runner .document body
    return some (← openNew { backing := .memory content })

/-- Opens what redirections name, in order, and tells whether all could be opened. -/
def openTargets (openings : List (Nat × Opening)) : Play m Bool :=
  tryCatch (do
    openings.forM fun (stream, opening) => do
      let place? ← openTarget runner opening
      modifyShell fun shell =>
        let others := shell.streams.filter (·.1 ≠ stream)
        { shell with streams := match place? with
            | some place => (stream, place) :: others
            | none => others }
    pure true) fun
    | .faults => pure false
    | leaving => throw leaving

/-- Gives streams the places back that they had before. -/
def restoreStreams (before : List (Nat × Nat)) (streams : List Nat) : Play m Unit :=
  modifyShell fun shell =>
    { shell with streams :=
        before.filter (·.1 ∈ streams) ++ shell.streams.filter (·.1 ∉ streams) }

/-- Runs something while streams are redirected, unless they cannot be. Tells whether they could. -/
def redirecting (openings : List (Nat × Opening)) (action : Play m Unit) : Play m Bool := do
  let before := (← shell).streams
  ensuring (restoreStreams before (openings.map (·.1))) do
    if ← openTargets runner openings then
      action
      pure true
    else pure false

end HybridTx.Script
