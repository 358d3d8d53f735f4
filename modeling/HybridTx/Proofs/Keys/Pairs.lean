import HybridTx.Proofs.Files.Map
import HybridTx.Proofs.Keys.Store
import HybridTx.Proofs.PostQuantum.Sizes

/-! Post-quantum pairs in a directory. The algorithm of a key is written nowhere: it is in the name
of the file, and is told by its length when the file is loaded. What is loaded is nevertheless what
was saved last for an algorithm, in whichever order pairs were saved. -/

namespace HybridTx

theorem PqAlgorithm.name_injective : Function.Injective name := by
  intro a b h
  cases a <;> cases b <;> first | rfl | exact absurd h (by decide)

theorem Path.join_injective (dir : Path) : Function.Injective (join dir) := by
  intro name name' h
  simp only [join] at h
  split at h
  · exact (String.append_right_inj _).mp h
  · exact (String.append_right_inj _).mp h

namespace PqKeyFiles

variable {dir : Path} {a b : PqAlgorithm}

@[simp] theorem inDir_privateKey_inj :
    (inDir dir a).privateKey = (inDir dir b).privateKey ↔ a = b := by
  rw [inDir, inDir, (Path.join_injective dir).eq_iff, String.append_left_inj,
    PqAlgorithm.name_injective.eq_iff]

@[simp] theorem inDir_publicKey_inj :
    (inDir dir a).publicKey = (inDir dir b).publicKey ↔ a = b := by
  rw [inDir, inDir, (Path.join_injective dir).eq_iff, String.append_left_inj,
    PqAlgorithm.name_injective.eq_iff]

theorem inDir_privateKey_ne_publicKey :
    (inDir dir a).privateKey ≠ (inDir dir b).publicKey := by
  rw [inDir, inDir, (Path.join_injective dir).ne_iff]
  cases a <;> cases b <;> decide

/-- The path is that of one of the two files. -/
def Has (files : PqKeyFiles) (path : Path) : Prop :=
  path = files.privateKey ∨ path = files.publicKey

instance (files : PqKeyFiles) (path : Path) : Decidable (files.Has path) :=
  inferInstanceAs (Decidable (_ ∨ _))

/-- Files of two algorithms have no path in common. -/
theorem eq_of_has {path : Path} (ha : (inDir dir a).Has path) (hb : (inDir dir b).Has path) :
    a = b := by
  obtain rfl | rfl := ha
  · obtain h | h := hb
    · exact inDir_privateKey_inj.mp h
    · exact absurd h inDir_privateKey_ne_publicKey
  · obtain h | h := hb
    · exact absurd h.symm inDir_privateKey_ne_publicKey
    · exact inDir_publicKey_inj.mp h

end PqKeyFiles

/-- A secret key, and a public key of the size that goes with it. -/
structure PqPair where
  secret : PqSecretKey
  publicKey : Bytes
  length_eq : publicKey.length = secret.parameters.publicKeySize

namespace PqPair

/-- The algorithm of both keys. -/
def algorithm (pair : PqPair) : PqAlgorithm := pair.secret.algorithm

theorem ofPublicKey_eq_ok (pair : PqPair) :
    PqAlgorithm.ofPublicKey pair.publicKey = .ok pair.algorithm :=
  PqAlgorithm.ofPublicKey_eq_ok.mpr ⟨_, pair.secret.supported, pair.length_eq.symm⟩

/-- The two files hold the pair. -/
def In (pair : PqPair) (names : PqKeyFiles) (stored : Path → Option Bytes) : Prop :=
  stored names.privateKey = some pair.secret.bytes ∧ stored names.publicKey = some pair.publicKey

/-- A pair all bytes of which are the same. -/
def filled (algorithm : PqAlgorithm) {p : Dilithium.Parameters}
    (hp : algorithm.parameters? = some p) (byte : UInt8) : PqPair where
  secret := ⟨algorithm, p, List.replicate p.secretKeySize byte, hp, List.length_replicate⟩
  publicKey := List.replicate p.publicKeySize byte
  length_eq := List.length_replicate

/-- No pair of its algorithm comes later. -/
def IsLatest (pairs : List PqPair) (pair : PqPair) : Prop :=
  ∃ earlier later, pairs = earlier ++ pair :: later ∧
    ∀ other ∈ later, other.algorithm ≠ pair.algorithm

theorem IsLatest.cons {pairs : List PqPair} {pair : PqPair} (first : PqPair)
    (h : IsLatest pairs pair) : IsLatest (first :: pairs) pair := by
  obtain ⟨earlier, later, rfl, hlater⟩ := h
  exact ⟨first :: earlier, later, rfl, hlater⟩

/-- Of the pairs of an algorithm one is the latest. -/
theorem exists_isLatest {pairs : List PqPair} {pair : PqPair} (h : pair ∈ pairs) :
    ∃ latest, IsLatest pairs latest ∧ latest.algorithm = pair.algorithm := by
  induction pairs generalizing pair with
  | nil => cases h
  | cons first rest ih =>
    by_cases hlater : ∃ other ∈ rest, other.algorithm = pair.algorithm
    · obtain ⟨other, hmem, hother⟩ := hlater
      obtain ⟨latest, hlatest, halgorithm⟩ := ih hmem
      exact ⟨latest, hlatest.cons first, halgorithm.trans hother⟩
    · push Not at hlater
      obtain rfl | hrest := List.mem_cons.mp h
      · exact ⟨pair, ⟨[], rest, rfl, hlater⟩, rfl⟩
      · exact absurd rfl (hlater pair hrest)

end PqPair

namespace KeyStore

variable {σ : Type} {files : σ → Path → Option Bytes} {disk : Disk (StateM σ)} {dir path : Path}
  {secret : PqSecretKey} {publicKey : Bytes} {before after : σ}

/-- How the saving of a pair under two names ends: at the first of its four parts that fails, or
well. -/
inductive SaveEnds (disk : Disk (StateM σ)) (dir : Path) (names : PqKeyFiles)
    (secret : PqSecretKey) (publicKey : Bytes) (before : σ) : Except KeyError PqKeyFiles → σ → Prop
  | noDirectory {e : FileError} {after : σ}
      (hdir : disk.makeDirs dir before = (.error e, after)) :
      SaveEnds disk dir names secret publicKey before (.error (.keyFile dir e.message)) after
  | notWritten {made after : σ} {e : FileError}
      (hdir : disk.makeDirs dir before = (.ok (), made))
      (hwrite : disk.write names.privateKey secret.bytes made = (.error e, after)) :
      SaveEnds disk dir names secret publicKey before
        (.error (.keyFile names.privateKey e.message)) after
  | notRestricted {made written after : σ} {e : FileError}
      (hdir : disk.makeDirs dir before = (.ok (), made))
      (hwrite : disk.write names.privateKey secret.bytes made = (.ok (), written))
      (hrestrict : disk.restrict names.privateKey written = (.error e, after)) :
      SaveEnds disk dir names secret publicKey before
        (.error (.keyFile names.privateKey e.message)) after
  | notPublished {made written restricted after : σ} {e : FileError}
      (hdir : disk.makeDirs dir before = (.ok (), made))
      (hwrite : disk.write names.privateKey secret.bytes made = (.ok (), written))
      (hrestrict : disk.restrict names.privateKey written = (.ok (), restricted))
      (hpublish : disk.write names.publicKey publicKey restricted = (.error e, after)) :
      SaveEnds disk dir names secret publicKey before
        (.error (.keyFile names.publicKey e.message)) after
  | saved {made written restricted after : σ}
      (hdir : disk.makeDirs dir before = (.ok (), made))
      (hwrite : disk.write names.privateKey secret.bytes made = (.ok (), written))
      (hrestrict : disk.restrict names.privateKey written = (.ok (), restricted))
      (hpublish : disk.write names.publicKey publicKey restricted = (.ok (), after)) :
      SaveEnds disk dir names secret publicKey before (.ok names) after

variable {names : PqKeyFiles} {pair : PqPair} {pairs : List PqPair}

theorem exists_saveEnds (disk : Disk (StateM σ)) (dir : Path) (names : PqKeyFiles)
    (secret : PqSecretKey) (publicKey : Bytes) (before : σ) :
    ∃ result after, SaveEnds disk dir names secret publicKey before result after := by
  rcases hdir : disk.makeDirs dir before with ⟨e | _, made⟩
  · exact ⟨_, _, .noDirectory hdir⟩
  rcases hwrite : disk.write names.privateKey secret.bytes made with ⟨e | _, written⟩
  · exact ⟨_, _, .notWritten hdir hwrite⟩
  rcases hrestrict : disk.restrict names.privateKey written with ⟨e | _, restricted⟩
  · exact ⟨_, _, .notRestricted hdir hwrite hrestrict⟩
  rcases hpublish : disk.write names.publicKey publicKey restricted with ⟨e | _, published⟩
  · exact ⟨_, _, .notPublished hdir hwrite hrestrict hpublish⟩
  · exact ⟨_, _, .saved hdir hwrite hrestrict hpublish⟩

theorem SaveEnds.run_eq {result : Except KeyError PqKeyFiles}
    (h : SaveEnds disk dir (.inDir dir secret.algorithm) secret publicKey before result after) :
    savePqPair disk dir secret publicKey before = (result, after) := by
  rw [savePqPair]
  cases h with
  | noDirectory hdir =>
    rw [bind_apply_of_eq hdir]
    rfl
  | notWritten hdir hwrite =>
    rw [bind_apply_of_eq hdir]
    exact bind_apply_of_eq (writePrivate_of_error hwrite)
  | notRestricted hdir hwrite hrestrict =>
    rw [bind_apply_of_eq hdir]
    exact bind_apply_of_eq (writePrivate_of_ok hwrite hrestrict)
  | notPublished hdir hwrite hrestrict hpublish =>
    rw [bind_apply_of_eq hdir]
    refine (bind_apply_of_eq (writePrivate_of_ok hwrite hrestrict)).trans ?_
    exact bind_apply_of_eq hpublish
  | saved hdir hwrite hrestrict hpublish =>
    rw [bind_apply_of_eq hdir]
    refine (bind_apply_of_eq (writePrivate_of_ok hwrite hrestrict)).trans ?_
    exact bind_apply_of_eq hpublish

theorem savePqPair_eq_iff {result : Except KeyError PqKeyFiles} :
    savePqPair disk dir secret publicKey before = (result, after) ↔
      SaveEnds disk dir (.inDir dir secret.algorithm) secret publicKey before result after := by
  refine ⟨fun h => ?_, SaveEnds.run_eq⟩
  obtain ⟨result', after', hends⟩ :=
    exists_saveEnds disk dir (.inDir dir secret.algorithm) secret publicKey before
  rw [hends.run_eq] at h
  cases h
  exact hends

theorem SaveEnds.files_eq (hdisk : disk.IsMap files) {saved : PqKeyFiles}
    (h : SaveEnds disk dir names secret publicKey before (.ok saved) after) :
    files after =
      Function.update (Function.update (files before) names.privateKey (some secret.bytes))
        names.publicKey (some publicKey) := by
  cases h with
  | @saved made written restricted _ hdir hwrite hrestrict hpublish =>
    rw [hdisk.write _ _ _ _ hpublish, (hdisk.restrict_keeps _).files_eq hrestrict,
      hdisk.write _ _ _ _ hwrite, (hdisk.makeDirs_keeps dir).files_eq hdir]

/-- A pair that was saved is in the two files of its algorithm. -/
theorem in_of_save (hdisk : disk.IsMap files)
    (h : savePqPair disk dir pair.secret pair.publicKey before = (.ok names, after)) :
    pair.In (.inDir dir pair.algorithm) (files after) := by
  rw [PqPair.In, (savePqPair_eq_iff.mp h).files_eq hdisk]
  constructor
  · rw [Function.update_of_ne PqKeyFiles.inDir_privateKey_ne_publicKey]
    exact Function.update_self _ _ _
  · exact Function.update_self _ _ _

/-- No other file has changed. -/
theorem files_of_save (hdisk : disk.IsMap files)
    (h : savePqPair disk dir pair.secret pair.publicKey before = (.ok names, after))
    (hpath : ¬(PqKeyFiles.inDir dir pair.algorithm).Has path) :
    files after path = files before path := by
  obtain ⟨hprivate, hpublic⟩ := not_or.mp hpath
  rw [(savePqPair_eq_iff.mp h).files_eq hdisk]
  exact (Function.update_of_ne hpublic _ _).trans (Function.update_of_ne hprivate _ _)

/-- Pairs are saved in a directory, one after the other, and none of it fails. -/
inductive Saves (disk : Disk (StateM σ)) (dir : Path) : σ → List PqPair → σ → Prop
  | nil {state : σ} : Saves disk dir state [] state
  | cons {before between after : σ} {names : PqKeyFiles} {pair : PqPair} {pairs : List PqPair}
      (hfirst : savePqPair disk dir pair.secret pair.publicKey before = (.ok names, between))
      (hrest : Saves disk dir between pairs after) : Saves disk dir before (pair :: pairs) after

namespace Saves

theorem split {earlier later : List PqPair} (h : Saves disk dir before (earlier ++ later) after) :
    ∃ between, Saves disk dir before earlier between ∧ Saves disk dir between later after := by
  induction earlier generalizing before with
  | nil => exact ⟨before, .nil, h⟩
  | cons first earlier ih =>
    cases h with
    | cons hfirst hrest =>
      obtain ⟨between, hearlier, hlater⟩ := ih hrest
      exact ⟨between, .cons hfirst hearlier, hlater⟩

theorem files_eq (hdisk : disk.IsMap files) (h : Saves disk dir before pairs after)
    (hpath : ∀ pair ∈ pairs, ¬(PqKeyFiles.inDir dir pair.algorithm).Has path) :
    files after path = files before path := by
  induction h with
  | nil => rfl
  | cons hfirst _ ih =>
    rw [List.forall_mem_cons] at hpath
    exact (ih hpath.2).trans (files_of_save hdisk hfirst hpath.1)

/-- The latest pair of an algorithm stays, since what is saved later goes by other names. -/
theorem in_of_isLatest (hdisk : disk.IsMap files) (h : Saves disk dir before pairs after)
    (hlatest : PqPair.IsLatest pairs pair) :
    pair.In (.inDir dir pair.algorithm) (files after) := by
  obtain ⟨earlier, later, rfl, hlater⟩ := hlatest
  obtain ⟨between, -, hpair⟩ := h.split
  cases hpair with
  | cons hsave hrest =>
    have hkeeps : ∀ {path}, (PqKeyFiles.inDir dir pair.algorithm).Has path →
        files after path = files _ path := fun hpath =>
      hrest.files_eq hdisk fun other hmem hother =>
        hlater other hmem (PqKeyFiles.eq_of_has hother hpath)
    obtain ⟨hprivate, hpublic⟩ := in_of_save hdisk hsave
    exact ⟨(hkeeps (.inl rfl)).trans hprivate, (hkeeps (.inr rfl)).trans hpublic⟩

/-- Where all files can be written, all pairs can be saved. -/
theorem exists_ofMap (dir : Path) (pairs : List PqPair) (stored : Path → Option Bytes) :
    ∃ after, Saves (Disk.ofMap []) dir stored pairs after := by
  induction pairs generalizing stored with
  | nil => exact ⟨stored, .nil⟩
  | cons pair pairs ih =>
    have hsave := savePqPair_eq_iff.mpr (.saved (Disk.ofMap_makeDirs dir stored)
      (Disk.ofMap_write_of_notMem List.not_mem_nil pair.secret.bytes stored) rfl
      (Disk.ofMap_write_of_notMem List.not_mem_nil pair.publicKey _))
    obtain ⟨after, hrest⟩ := ih _
    exact ⟨after, .cons hsave hrest⟩

end Saves

theorem loadAs_keeps (hdisk : disk.IsMap files) {Key : Type} (parse : Bytes → Except KeyError Key) :
    KeepsMap files (loadAs disk path parse) := by
  refine (hdisk.read_keeps path).bind fun content => ?_
  cases content with
  | error e => exact .pure _
  | ok bytes => exact .pure _

theorem load_of_in (hdisk : disk.IsMap files) {state : σ} (h : pair.In names (files state)) :
    (loadPqSecret disk names.privateKey state).1 = .ok pair.secret ∧
      (loadPqPublic disk names.publicKey state).1 = .ok (pair.algorithm, pair.publicKey) := by
  have hsecret := loadPqSecret_eq_ok.mpr ⟨_, hdisk.read_eq_ok h.1, pair.secret.infer_bytes⟩
  have hpublic := loadPqPublic_eq_ok.mpr ⟨hdisk.read_eq_ok h.2, pair.ofPublicKey_eq_ok⟩
  exact ⟨congrArg Prod.fst hsecret, congrArg Prod.fst hpublic⟩

end KeyStore

/-- A directory of pairs is a store. Of the pairs of each algorithm the latest one is loaded again,
also after other pairs have been loaded, and files with other names are left alone. -/
theorem latest_pairs_are_loaded {σ : Type} {files : σ → Path → Option Bytes}
    {disk : Disk (StateM σ)} (hdisk : disk.IsMap files) {dir : Path} {before after : σ}
    {pairs : List PqPair} (hsaves : KeyStore.Saves disk dir before pairs after) :
    (∀ pair ∈ pairs, ∃ latest, PqPair.IsLatest pairs latest ∧
      latest.algorithm = pair.algorithm) ∧
    (∀ pair, PqPair.IsLatest pairs pair → ∀ state, files state = files after →
      (KeyStore.loadPqSecret disk (PqKeyFiles.inDir dir pair.algorithm).privateKey state).1 =
          .ok pair.secret ∧
        (KeyStore.loadPqPublic disk (PqKeyFiles.inDir dir pair.algorithm).publicKey state).1 =
          .ok (pair.algorithm, pair.publicKey)) ∧
    (∀ path, KeepsMap files (KeyStore.loadPqSecret disk path) ∧
      KeepsMap files (KeyStore.loadPqPublic disk path)) ∧
    ∀ path, (∀ pair ∈ pairs, ¬(PqKeyFiles.inDir dir pair.algorithm).Has path) →
      files after path = files before path := by
  refine ⟨fun _ => PqPair.exists_isLatest, fun pair hlatest state hstate => ?_,
    fun _ => ⟨KeyStore.loadAs_keeps hdisk _, KeyStore.loadAs_keeps hdisk _⟩,
    fun _ => hsaves.files_eq hdisk⟩
  have hin := hsaves.in_of_isLatest hdisk hlatest
  rw [← hstate] at hin
  exact KeyStore.load_of_in hdisk hin

/-- The second pair of an algorithm takes the place of the first, and the pair of another algorithm
saved between them stays. -/
theorem latest_pairs_are_loaded_in_turn :
    let first := PqPair.filled .dilithium2 rfl 1
    let other := PqPair.filled .dilithium5 rfl 2
    let second := PqPair.filled .dilithium2 rfl 3
    (Disk.ofMap []).IsMap id ∧ ∃ after,
      KeyStore.Saves (Disk.ofMap []) "keys" (fun _ => none) [first, other, second] after ∧
      (KeyStore.loadPqSecret (Disk.ofMap []) "keys/dilithium2-private.key" after).1 =
        .ok second.secret ∧
      (KeyStore.loadPqPublic (Disk.ofMap []) "keys/dilithium2-public.key" after).1 =
        .ok (.dilithium2, second.publicKey) ∧
      (KeyStore.loadPqSecret (Disk.ofMap []) "keys/dilithium5-private.key" after).1 =
        .ok other.secret ∧
      after "keys/dilithium3-private.key" = none := by
  intro first other second
  obtain ⟨after, hsaves⟩ :=
    KeyStore.Saves.exists_ofMap "keys" [first, other, second] (fun _ => none)
  obtain ⟨-, hload, -, hkept⟩ := latest_pairs_are_loaded (Disk.isMap_ofMap []) hsaves
  obtain ⟨hsecond, hpublic⟩ := hload second ⟨[first, other], [], rfl, nofun⟩ after rfl
  obtain ⟨hother, -⟩ := hload other ⟨[first], [second], rfl, by decide⟩ after rfl
  exact ⟨Disk.isMap_ofMap [], after, hsaves, hsecond, hpublic, hother, hkept _ (by decide)⟩

end HybridTx
