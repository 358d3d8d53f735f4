import HybridTx.Hash.Sha256
import HybridTx.Program.Copying
import HybridTx.Program.Edit.Run
import HybridTx.Program.Encoding
import HybridTx.Program.FileWork
import HybridTx.Program.Letters
import HybridTx.Program.Lines
import HybridTx.Program.Plain
import HybridTx.Program.Search

/-! The programs by their names. -/

namespace HybridTx.Program

variable {m : Type → Type} [Monad m]

/-- Leaves the same status whatever it is given. -/
def leaving (status : Nat) : Routine m := fun _ => pure status

/-- The programs and their names. -/
def programs : List (String × Routine m) :=
  [("[", bracket), ("base32", encodeWith base32Code), ("base64", encodeWith base64Code),
    ("basename", basename), ("cat", cat), ("chmod", chmod), ("cmp", cmp), ("comm", comm),
    ("cp", cp), ("cut", cut), ("dirname", dirname), ("echo", echo), ("egrep", grepWith (some 'E')),
    ("expr", expr), ("false", leaving 1), ("fgrep", grepWith (some 'F')), ("fold", fold),
    ("grep", grepWith none), ("head", head), ("id", identity), ("ls", ls), ("mkdir", mkdir),
    ("mktemp", mktemp), ("mv", mv), ("nl", nl), ("od", od), ("paste", paste),
    ("printenv", printenv), ("printf", printf), ("pwd", pwd), ("readlink", readlink),
    ("realpath", realpath), ("rev", rev), ("rm", rm), ("rmdir", rmdir), ("sed", Edit.sed),
    ("seq", seq), ("sha256sum", digestWith "SHA256" Sha256.digest), ("sleep", sleep),
    ("sort", sort), ("sync", leaving 0), ("tac", tac), ("tail", tail), ("tee", tee), ("test", test),
    ("touch", touch), ("tr", tr), ("true", leaving 0), ("uname", uname), ("uniq", uniq), ("wc", wc),
    ("whoami", whoami), ("yes", yes)]

/-- The program with a name. -/
def ofName? (name : Octets) : Option (Routine m) := programs.lookup name

/-- Programs that start other programs. -/
def launcherNames : List String :=
  ["bash", "dash", "env", "nice", "nohup", "sh", "timeout", "which", "xargs"]

/-- Some program has the name. -/
def isName (name : Octets) : Bool :=
  (ofName? name : Option (Routine Id)).isSome || name ∈ launcherNames

/-- The directories that hold the programs. -/
def programDirectories : List String := ["/bin", "/usr/bin"]

/-- The name of the program at a path. -/
def nameAt? (path : Octets) : Option Octets :=
  programDirectories.findSome? fun directory =>
    let start := directory ++ "/"
    let name := (path.drop start.length).toString
    if path.startsWith start ∧ isName name then some name else none

end HybridTx.Program
