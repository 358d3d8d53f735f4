import HybridTx.Text.Utf8

/-! Why a file or a program cannot be used. -/

namespace HybridTx

/-- Faults of files and programs. -/
inductive FileError
  | notFound
  | denied
  | alreadyExists
  | notDirectory
  | isDirectory
  | nameTooLong
  | notEmpty
  | busy
  | invalid
  | nulInName
  | nulInArgument
  | notText
  | noParent
deriving DecidableEq, Repr

namespace FileError

/-- The wording of a fault by itself. -/
def reason : FileError → String
  | notFound => "No such file or directory"
  | denied => "Permission denied"
  | alreadyExists => "File exists"
  | notDirectory => "Not a directory"
  | isDirectory => "Is a directory"
  | nameTooLong => "File name too long"
  | notEmpty => "Directory not empty"
  | busy => "Device or resource busy"
  | invalid => "Invalid argument"
  | nulInName => "file name contained an unexpected NUL byte"
  | nulInArgument => "nul byte found in provided data"
  | notText => "stream did not contain valid UTF-8"
  | noParent => "failed to create whole tree"

/-- The number of the system error behind a fault, if there is one. -/
def number? : FileError → Option Nat
  | notFound => some 2
  | denied => some 13
  | busy => some 16
  | alreadyExists => some 17
  | notDirectory => some 20
  | isDirectory => some 21
  | invalid => some 22
  | nameTooLong => some 36
  | notEmpty => some 39
  | _ => none

/-- The wording of a fault, with the number of the system error behind it, if there is one. -/
def message (fault : FileError) : String :=
  match fault.number? with
  | some number => s!"{fault.reason} (os error {number})"
  | none => fault.reason

end FileError

end HybridTx
