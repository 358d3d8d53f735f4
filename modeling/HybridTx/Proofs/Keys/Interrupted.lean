import HybridTx.Proofs.Keys.Pairs

/-! Saves that fail. What a save has done when one of its parts fails is not undone, and the private
key is written before the public key. So a save that fails may leave a new private key beside an old
public key, but it changes nothing else. -/

namespace HybridTx

namespace KeyStore

variable {σ : Type} {files : σ → Path → Option Bytes} {disk : Disk (StateM σ)} {dir : Path}
  {names : PqKeyFiles} {secret : PqSecretKey} {publicKey : Bytes} {before after : σ} {e : KeyError}

/-- A save gets as far as to write the private key. -/
def WritesPrivate (disk : Disk (StateM σ)) (dir : Path) (names : PqKeyFiles)
    (secret : PqSecretKey) (before : σ) : Prop :=
  ∃ made written, disk.makeDirs dir before = (.ok (), made) ∧
    disk.write names.privateKey secret.bytes made = (.ok (), written)

theorem not_writesPrivate_of_dir_error {e : FileError}
    (hdir : disk.makeDirs dir before = (.error e, after)) :
    ¬WritesPrivate disk dir names secret before := by
  rintro ⟨made, written, hmade, -⟩
  cases hdir.symm.trans hmade

theorem not_writesPrivate_of_write_error {made : σ} {e : FileError}
    (hdir : disk.makeDirs dir before = (.ok (), made))
    (hwrite : disk.write names.privateKey secret.bytes made = (.error e, after)) :
    ¬WritesPrivate disk dir names secret before := by
  rintro ⟨made', written, hmade, hwritten⟩
  cases hdir.symm.trans hmade
  cases hwrite.symm.trans hwritten

/-- A save that fails has changed nothing until the private key is written, and only that file from
then on. -/
theorem SaveEnds.files_of_error (hdisk : disk.IsMap files)
    (h : SaveEnds disk dir names secret publicKey before (.error e) after) :
    ¬WritesPrivate disk dir names secret before ∧ files after = files before ∨
      WritesPrivate disk dir names secret before ∧
        files after = Function.update (files before) names.privateKey (some secret.bytes) := by
  cases h with
  | noDirectory hdir =>
    exact .inl ⟨not_writesPrivate_of_dir_error hdir, (hdisk.makeDirs_keeps dir).files_eq hdir⟩
  | notWritten hdir hwrite =>
    refine .inl ⟨not_writesPrivate_of_write_error hdir hwrite, ?_⟩
    rw [hdisk.write_error _ _ _ _ _ hwrite, (hdisk.makeDirs_keeps dir).files_eq hdir]
  | notRestricted hdir hwrite hrestrict =>
    refine .inr ⟨⟨_, _, hdir, hwrite⟩, ?_⟩
    rw [(hdisk.restrict_keeps _).files_eq hrestrict, hdisk.write _ _ _ _ hwrite,
      (hdisk.makeDirs_keeps dir).files_eq hdir]
  | notPublished hdir hwrite hrestrict hpublish =>
    refine .inr ⟨⟨_, _, hdir, hwrite⟩, ?_⟩
    rw [hdisk.write_error _ _ _ _ _ hpublish, (hdisk.restrict_keeps _).files_eq hrestrict,
      hdisk.write _ _ _ _ hwrite, (hdisk.makeDirs_keeps dir).files_eq hdir]

end KeyStore

/-- A save that fails changes at most the private key file of its own algorithm, and that only by
writing the new key to it. Until then all files are as they were; and a pair of another algorithm
stays whole in any case. -/
theorem failed_save_changes_only_private_key {σ : Type} {files : σ → Path → Option Bytes}
    {disk : Disk (StateM σ)} (hdisk : disk.IsMap files) {dir : Path} {secret : PqSecretKey}
    {publicKey : Bytes} {before after : σ} {e : KeyError}
    (hfailed : KeyStore.savePqPair disk dir secret publicKey before = (.error e, after)) :
    let names := PqKeyFiles.inDir dir secret.algorithm
    (∀ path, path ≠ names.privateKey → files after path = files before path) ∧
    (KeyStore.WritesPrivate disk dir names secret before →
      files after names.privateKey = some secret.bytes) ∧
    (¬KeyStore.WritesPrivate disk dir names secret before → files after = files before) ∧
    ∀ pair : PqPair, pair.In (.inDir dir pair.algorithm) (files before) →
      pair.algorithm ≠ secret.algorithm ∨ ¬KeyStore.WritesPrivate disk dir names secret before →
      pair.In (.inDir dir pair.algorithm) (files after) := by
  intro names
  obtain ⟨hnone, hfiles⟩ | ⟨hwrites, hfiles⟩ :=
    (KeyStore.savePqPair_eq_iff.mp hfailed).files_of_error hdisk
  · rw [hfiles]
    exact ⟨fun _ _ => rfl, fun hwrites => absurd hwrites hnone, fun _ => rfl, fun _ hin _ => hin⟩
  · rw [hfiles]
    refine ⟨fun path hpath => Function.update_of_ne hpath _ _, fun _ => Function.update_self _ _ _,
      fun hnone => absurd hwrites hnone, fun pair hin hother => ?_⟩
    have halgorithm : pair.algorithm ≠ secret.algorithm :=
      hother.resolve_right (not_not_intro hwrites)
    have hprivate : (PqKeyFiles.inDir dir pair.algorithm).privateKey ≠ names.privateKey :=
      fun h => halgorithm (PqKeyFiles.inDir_privateKey_inj.mp h)
    have hpublic : (PqKeyFiles.inDir dir pair.algorithm).publicKey ≠ names.privateKey :=
      PqKeyFiles.inDir_privateKey_ne_publicKey.symm
    exact ⟨(Function.update_of_ne hprivate _ _).trans hin.1,
      (Function.update_of_ne hpublic _ _).trans hin.2⟩

/-- Files that are those of a pair and no others. -/
def PqPair.files (pair : PqPair) (names : PqKeyFiles) : Path → Option Bytes := fun path =>
  if path = names.privateKey then some pair.secret.bytes
  else if path = names.publicKey then some pair.publicKey
  else none

theorem PqPair.in_files {pair : PqPair} {names : PqKeyFiles}
    (h : names.privateKey ≠ names.publicKey) : pair.In names (pair.files names) :=
  ⟨if_pos rfl, (if_neg h.symm).trans (if_pos rfl)⟩

/-- Where just the public key cannot be written, the private key stays. -/
theorem KeyStore.savePqPair_locked (dir : Path) (pair : PqPair) (stored : Path → Option Bytes) :
    let names := PqKeyFiles.inDir dir pair.algorithm
    savePqPair (Disk.ofMap [names.publicKey]) dir pair.secret pair.publicKey stored =
      (.error (.keyFile names.publicKey FileError.denied.message),
        Function.update stored names.privateKey (some pair.secret.bytes)) := by
  intro names
  have hprivate : names.privateKey ∉ [names.publicKey] := by
    rw [List.mem_singleton]
    exact PqKeyFiles.inDir_privateKey_ne_publicKey
  exact savePqPair_eq_iff.mpr (.notPublished (Disk.ofMap_makeDirs dir stored)
    (Disk.ofMap_write_of_notMem hprivate _ _) rfl
    (Disk.ofMap_write_of_mem (List.mem_singleton_self _) _ _))

/-- The public key of a new pair cannot be written. The pair of another algorithm in the directory
is still whole, and the new private key has no public key beside it. -/
theorem failed_save_changes_only_private_key_locked :
    let old := PqPair.filled .dilithium3 rfl 1
    let new := PqPair.filled .dilithium2 rfl 2
    let disk := Disk.ofMap ["keys/dilithium2-public.key"]
    let before := old.files (.inDir "keys" .dilithium3)
    disk.IsMap id ∧ old.In (.inDir "keys" .dilithium3) before ∧ ∃ e after,
      KeyStore.savePqPair disk "keys" new.secret new.publicKey before = (.error e, after) ∧
      after "keys/dilithium2-private.key" = some new.secret.bytes ∧
      after "keys/dilithium2-public.key" = none ∧ old.In (.inDir "keys" .dilithium3) after := by
  intro old new disk before
  have hold : old.In (.inDir "keys" .dilithium3) before := PqPair.in_files (by decide)
  have hsave := KeyStore.savePqPair_locked "keys" new before
  obtain ⟨hother, hwritten, -, hpair⟩ :=
    failed_save_changes_only_private_key (Disk.isMap_ofMap _) hsave
  have hwrites : KeyStore.WritesPrivate disk "keys" (.inDir "keys" .dilithium2) new.secret before :=
    ⟨_, _, Disk.ofMap_makeDirs _ _, Disk.ofMap_write_of_notMem (by decide) _ _⟩
  exact ⟨Disk.isMap_ofMap _, hold, _, _, hsave, hwritten hwrites, hother _ (by decide),
    hpair old hold (.inl (by decide))⟩

/-- A pair is saved over another one of the same algorithm, the public key file of which cannot be
written: the stored private key is lost, and the new one stands beside the old public key. -/
theorem failed_save_leaves_parts_of_two_pairs :
    let old := PqPair.filled .dilithium2 rfl 1
    let new := PqPair.filled .dilithium2 rfl 2
    let names := PqKeyFiles.inDir "keys" .dilithium2
    let disk := Disk.ofMap [names.publicKey]
    disk.IsMap id ∧ old.In names (old.files names) ∧ ∃ e after,
      KeyStore.savePqPair disk "keys" new.secret new.publicKey (old.files names) =
        (.error e, after) ∧
      after names.privateKey = some new.secret.bytes ∧
      after names.publicKey = some old.publicKey ∧ new.secret.bytes ≠ old.secret.bytes := by
  intro old new names disk
  have hnames : names.privateKey ≠ names.publicKey := PqKeyFiles.inDir_privateKey_ne_publicKey
  have hold : old.In names (old.files names) := PqPair.in_files hnames
  have hkeys : new.secret.bytes ≠ old.secret.bytes := fun h =>
    absurd (congrArg List.head? h) (by decide)
  exact ⟨Disk.isMap_ofMap _, hold, _, _, KeyStore.savePqPair_locked "keys" new _,
    Function.update_self _ _ _, (Function.update_of_ne hnames.symm _ _).trans hold.2, hkeys⟩

end HybridTx
