import HybridTx.Commands.Process
import HybridTx.Script.Start

/-! The program: its arguments, the files and random bytes of the system, and what it prints. -/

namespace HybridTx

/-- The fault behind the number of a system error. -/
def faultOfNumber (number : UInt32) : FileError :=
  match number with
  | 2 => .notFound
  | 16 => .busy
  | 17 => .alreadyExists
  | 20 => .notDirectory
  | 21 => .isDirectory
  | 22 => .invalid
  | 36 => .nameTooLong
  | 39 => .notEmpty
  | _ => .denied

/-- A fault of the system. -/
def systemFault : IO.Error → FileError
  | .noFileOrDirectory .. => .notFound
  | .alreadyExists _ number _ | .inappropriateType _ number _ | .unsatisfiedConstraints number _
  | .otherError number _ | .invalidArgument _ number _ => faultOfNumber number
  | _ => .denied

/-- The result of an action, or the fault that ended it. -/
def attempt {α : Type} (action : IO α) : IO (Except FileError α) := do
  match ← action.toBaseIO with
  | .ok a => pure (.ok a)
  | .error e => pure (.error (systemFault e))

/-- The file system. -/
def systemFiles : FileSystem IO where
  read path := attempt do return (← IO.FS.readBinFile path).toList
  write path content := attempt (IO.FS.writeBinFile path ⟨content.toArray⟩)
  restrict path := attempt (IO.setAccessRights path { user := { read := true, write := true } })
  makeDir path := attempt (IO.FS.createDir path)
  isPresent path := do
    return (← attempt do (← IO.FS.realPath path).pathExists) matches .ok true
  isDir path := do
    return (← attempt do (← IO.FS.realPath path).isDir) matches .ok true
  entries path := attempt do return (← (← IO.FS.realPath path).readDir).toList.map (·.fileName)
  remove path := attempt (IO.FS.removeFile path)
  removeDir path := attempt (IO.FS.removeDir path)
  rename source target := attempt (IO.FS.rename source target)

/-- The variables that tools are given. -/
def passedVariables : List String := ["HOME", "LANG", "PATH", "TMPDIR", "USER"]

/-- Signer tools are scripts. What is proved of tools is proved of every `ToolRunner`. -/
def systemTools : ToolRunner IO where
  run program args := do
    let directory := (← IO.currentDir).toString
    let bindings ← passedVariables.filterMapM fun name => do
      return (← IO.getEnv name).map fun value => (name, value)
    Script.start systemFiles { directory, bindings } program args
  stage content := attempt do
    let name := Hex.encode (← IO.getRandomBytes 8).toList
    let path := "/tmp/hybrid-" ++ name
    IO.FS.writeBinFile path ⟨content.toArray⟩
    return path
  unstage path := do
    let _ ← attempt (IO.FS.removeFile path)

/-- The system, as commands see it. -/
def systemHost : IO (Host IO) := do
  return {
    disk := systemFiles.toDisk
    tools := systemTools
    random := fun count => do return (← IO.getRandomBytes count.toUSize).toList
    home := ← IO.getEnv "HOME" }

end HybridTx

open HybridTx in
/-- Runs the program on its arguments. -/
def main (args : List String) : IO UInt32 := do
  let ending ← runProgram (← systemHost) args
  IO.print ending.printed
  IO.eprint ending.remarks
  return ending.status.toUInt32
