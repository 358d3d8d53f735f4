import HybridTx.Keys.Store
import HybridTx.Proofs.Results

/-! The steps of the key store: what the bytes of a file are loaded as, and how a file is written
that only its owner may see. -/

namespace HybridTx.KeyStore

variable {σ Key : Type} {disk : Disk (StateM σ)} {path : Path} {content : Bytes} {before after : σ}
  {parse : Bytes → Except KeyError Key} {key : Key}

/-- Reads a file as a key. Both loaders of post-quantum keys do this. -/
def loadAs {m : Type → Type} [Monad m] (disk : Disk m) (path : Path)
    (parse : Bytes → Except KeyError Key) : m (Except KeyError Key) := do
  match ← disk.read path with
  | .error e => pure (.error (.keyFile path e.message))
  | .ok bytes => pure (inFile path (parse bytes))

theorem loadAs_of_error {e : FileError} (h : disk.read path before = (.error e, after)) :
    loadAs disk path parse before = (.error (.keyFile path e.message), after) := by
  rw [loadAs, bind_apply_of_eq h]
  rfl

theorem loadAs_of_read (h : disk.read path before = (.ok content, after)) :
    loadAs disk path parse before = (inFile path (parse content), after) := by
  rw [loadAs, bind_apply_of_eq h]
  rfl

theorem loadAs_eq_ok :
    loadAs disk path parse before = (.ok key, after) ↔
      ∃ content, disk.read path before = (.ok content, after) ∧ parse content = .ok key := by
  rcases hread : disk.read path before with ⟨e | content, read⟩
  · rw [loadAs_of_error hread]
    constructor
    · intro h
      cases h
    · rintro ⟨_, h, -⟩
      cases h
  · rw [loadAs_of_read hread, Prod.mk.injEq, inFile, mapError_eq_ok]
    constructor
    · rintro ⟨hkey, rfl⟩
      exact ⟨content, rfl, hkey⟩
    · rintro ⟨_, h, hkey⟩
      cases h
      exact ⟨hkey, rfl⟩

theorem loadPqSecret_of_read (h : disk.read path before = (.ok content, after)) :
    loadPqSecret disk path before = (inFile path (PqSecretKey.infer content), after) :=
  loadAs_of_read h

theorem loadPqSecret_eq_ok {secret : PqSecretKey} :
    loadPqSecret disk path before = (.ok secret, after) ↔
      ∃ content, disk.read path before = (.ok content, after) ∧
        PqSecretKey.infer content = .ok secret :=
  loadAs_eq_ok

theorem loadPqPublic_eq_ok {algorithm : PqAlgorithm} {publicKey : Bytes} :
    loadPqPublic disk path before = (.ok (algorithm, publicKey), after) ↔
      disk.read path before = (.ok publicKey, after) ∧
        PqAlgorithm.ofPublicKey publicKey = .ok algorithm := by
  have hload : loadPqPublic disk path before = (.ok (algorithm, publicKey), after) ↔
      ∃ content, disk.read path before = (.ok content, after) ∧
        (PqAlgorithm.ofPublicKey content).map (·, content) = .ok (algorithm, publicKey) :=
    loadAs_eq_ok
  simp [hload, map_eq_ok]

theorem writePrivate_of_error {e : FileError}
    (h : disk.write path content before = (.error e, after)) :
    writePrivate disk path content before = (.error (.keyFile path e.message), after) := by
  rw [writePrivate, bind_apply_of_eq h]
  rfl

theorem writePrivate_of_ok {written : σ} {result : Except FileError Unit}
    (hwrite : disk.write path content before = (.ok (), written))
    (hrestrict : disk.restrict path written = (result, after)) :
    writePrivate disk path content before = (atPath path result, after) := by
  rw [writePrivate, bind_apply_of_eq hwrite]
  exact bind_apply_of_eq hrestrict

end HybridTx.KeyStore
