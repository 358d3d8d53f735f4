import HybridTx.Script.Shell

/-! Streams of a script: opening files, reading and writing, and complaints. -/

namespace HybridTx.Script

/-- What a file is opened for. -/
inductive Access
  | read
  | write (force : Bool)
  | append
  | readWrite
deriving DecidableEq

variable {m : Type → Type} [Monad m]

/-- The place of an open stream. -/
def placeOf? (stream : Nat) : Play m (Option Nat) := do return (← shell).streams.lookup stream

/-- Opens one more stream and gives its place. -/
def openNew (stream : OpenStream) : Play m Nat := do
  let machine ← getThe Machine
  set { machine with opened := machine.opened.push stream }
  pure machine.opened.size

/-- The path of a file as the file system knows it. -/
def located (path : Octets) : Play m Path := do
  return (Shell.resolve (← shell).directory path).toText

/-- Opens a file. -/
def openFile (path : Octets) (access : Access) : Play m (Except FileError Nat) := do
  let readable := access = .read || access = .readWrite
  let writable := access ≠ .read
  match Device.ofPath? path with
  | some (.stream number) => match ← placeOf? number with
    | some place => return .ok place
    | none => return .error .notFound
  | some device => return .ok (← openNew { backing := .device device, readable, writable })
  | none =>
    let place ← located path
    let found ← onFiles (·.read place)
    let clobbers := access = .write false && (← hasOption 'C')
    let ready : Except FileError Unit ← match access, found with
      | .read, .error .isDirectory => pure (.ok ())
      | .read, .error e => pure (.error e)
      | .write _, .ok _ => do
        if clobbers then pure (.error .alreadyExists) else onFiles (·.write place [])
      | .write _, _ => onFiles (·.write place [])
      | _, .error .notFound => onFiles (·.write place [])
      | _, .error e => pure (.error e)
      | _, .ok _ => pure (.ok ())
    match ready with
    | .error e => return .error e
    | .ok () =>
      let backing := .file (Octets.ofText place)
      return .ok (← openNew { backing, readable, writable, append := access = .append })

/-- Replaces what is known of an open stream. -/
def setStream (place : Nat) (stream : OpenStream) : Play m Unit :=
  modifyThe Machine fun machine =>
    { machine with opened := machine.opened.setIfInBounds place stream }

/-- What is said of a stream that is not open. -/
def notOpen : Octets := "Bad file descriptor"

/-- Writes to the stream at a place, or tells why it cannot be written. -/
def writeAt (place : Nat) (text : Octets) : Play m (Except Octets Unit) := do
  match (← getThe Machine).opened[place]? with
  | none => pure (.error notOpen)
  | some stream =>
    if !stream.writable then return .error notOpen
    match stream.backing with
    | .device .full => pure (.error "No space left on device")
    | .device _ => pure (.ok ())
    | .memory content =>
      setStream place { stream with backing := .memory (content ++ text) }
      pure (.ok ())
    | .file path =>
      let content := ((← onFiles (·.read path.toText)).toOption).getD []
      let bytes := text.toBytes
      let position := if stream.append then content.length else stream.position
      let before := content.take position
      let gap := List.replicate (position - before.length) 0
      let written := before ++ gap ++ bytes ++ content.drop (position + bytes.length)
      let result ← onFiles (·.write path.toText written)
      setStream place { stream with position := position + bytes.length }
      pure (result.mapError fun e => e.reason)

/-- Writes to a stream, or tells why it cannot be written. -/
def writeTo (stream : Nat) (text : Octets) : Play m (Except Octets Unit) := do
  match ← placeOf? stream with
  | some place => writeAt place text
  | none => pure (.error notOpen)

/-- What is left to read from the stream at a place. -/
def restAt (place : Nat) : Play m (Except FileError Octets) := do
  match (← getThe Machine).opened[place]? with
  | none => pure (.ok "")
  | some stream =>
    match stream.backing with
    | .device device => pure (.ok device.content)
    | .memory content => pure (.ok (content.drop stream.position).toString)
    | .file path =>
      match ← onFiles (·.read path.toText) with
      | .ok bytes => pure (.ok (Octets.ofBytes (bytes.drop stream.position)))
      | .error e => pure (.error e)

/-- Passes over characters of the stream at a place. -/
def skipAt (place count : Nat) : Play m Unit := do
  match (← getThe Machine).opened[place]? with
  | none => pure ()
  | some stream => setStream place { stream with position := stream.position + count }

/-- Takes all that is left of the input. -/
def takeInput : Play m Octets := do
  match ← placeOf? 0 with
  | none => pure ""
  | some place =>
    let text := (← restAt place).toOption.getD ""
    skipAt place text.length
    pure text

/-- Writes a line to the stream of errors. -/
def grumble (message : Octets) : Play m Unit := do
  let _ ← writeTo 2 (message ++ "\n")

/-- Complains in the name of the script and of the command that runs. -/
def complain (message : Octets) : Play m Unit := do
  let shell ← shell
  let by' := match shell.complainer with
    | some command => command ++ ": "
    | none => ""
  grumble (shell.name ++ ": " ++ toString shell.line ++ ": " ++ by' ++ message)

/-- Complains, and gives up what is being done. -/
def fault {α : Type} (message : Octets) (status : Nat) : Play m α := do
  complain message
  leave status
  throw .faults

/-- Does something, and then something else, however the first ends. -/
def ensuring {α : Type} (after : Play m Unit) (action : Play m α) : Play m α := do
  let result ← tryCatch action fun leaving => do
    after
    throw leaving
  after
  pure result

/-- Runs something with a stream of its own in place of the given one, and gives what was written
to it. -/
def capture {α : Type} (stream : Nat) (action : Play m α) : Play m (α × Octets) := do
  let before := (← shell).streams
  let place ← openNew { backing := .memory "" }
  modifyShell fun shell =>
    { shell with streams := (stream, place) :: shell.streams.filter (·.1 ≠ stream) }
  let result ← action
  modifyShell ({ · with streams := before })
  match (← getThe Machine).opened[place]? with
  | some { backing := .memory content, .. } => pure (result, content)
  | _ => pure (result, "")

end HybridTx.Script
