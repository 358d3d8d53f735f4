import HybridTx.Files.Disk
import Mathlib.Logic.Function.Basic

/-! Disks whose files are a map from paths to bytes. Each operation may fail, and then changes no
file. Directories are no part of the map, so to make or look for one changes no file either. -/

namespace HybridTx

variable {σ α β : Type} {files : σ → Path → Option Bytes}

/-- A step leaves all files as they are. -/
def KeepsMap (files : σ → Path → Option Bytes) (step : StateM σ α) : Prop :=
  ∀ state, files (step state).2 = files state

namespace KeepsMap

theorem files_eq {step : StateM σ α} (hkeeps : KeepsMap files step) {before after : σ} {a : α}
    (h : step before = (a, after)) : files after = files before := by
  simpa only [h] using hkeeps before

theorem pure (a : α) : KeepsMap files (Pure.pure a : StateM σ α) := fun _ => rfl

theorem bind {first : StateM σ α} {next : α → StateM σ β} (hfirst : KeepsMap files first)
    (hnext : ∀ a, KeepsMap files (next a)) : KeepsMap files (first >>= next) :=
  fun state => (hnext _ _).trans (hfirst state)

end KeepsMap

/-- The files of a disk are a map from paths to bytes. A write that fails is taken to change
nothing, though a disk may have emptied the file before the failure, or written a part of it. -/
structure Disk.IsMap (disk : Disk (StateM σ)) (files : σ → Path → Option Bytes) : Prop where
  read : ∀ path state, (disk.read path state).1.toOption = files state path
  read_keeps : ∀ path, KeepsMap files (disk.read path)
  write : ∀ path content before after, disk.write path content before = (.ok (), after) →
    files after = Function.update (files before) path (some content)
  write_error : ∀ path content before e after,
    disk.write path content before = (.error e, after) → files after = files before
  restrict_keeps : ∀ path, KeepsMap files (disk.restrict path)
  makeDir_keeps : ∀ path, KeepsMap files (disk.makeDir path)
  isDir_keeps : ∀ path, KeepsMap files (disk.isDir path)

namespace Disk

variable {disk : Disk (StateM σ)}

namespace IsMap

theorem read_eq_ok (hdisk : disk.IsMap files) {path : Path} {content : Bytes} {state : σ}
    (h : files state path = some content) :
    disk.read path state = (.ok content, (disk.read path state).2) := by
  have hread := hdisk.read path state
  rw [h] at hread
  rcases hresult : disk.read path state with ⟨e | found, after⟩
  · rw [hresult] at hread
    cases hread
  · rw [hresult] at hread
    cases hread
    rfl

theorem ensureDir_keeps (hdisk : disk.IsMap files) (path : Path) :
    KeepsMap files (disk.ensureDir path) := by
  refine (hdisk.makeDir_keeps path).bind fun made => ?_
  cases made with
  | ok _ => exact .pure _
  | error e =>
    refine (hdisk.isDir_keeps path).bind fun isDir => ?_
    cases isDir
    · exact .pure _
    · exact .pure _

theorem makeDirsTo_keeps (hdisk : disk.IsMap files) (depth : Nat) (path : Path) :
    KeepsMap files (disk.makeDirsTo depth path) := by
  induction depth generalizing path with
  | zero => exact .pure _
  | succ depth ih =>
    rw [makeDirsTo]
    split
    · exact .pure _
    · refine (hdisk.makeDir_keeps path).bind fun made => ?_
      split
      · exact .pure _
      · split
        · exact .pure _
        · next parent _ =>
          refine (ih parent).bind fun above => ?_
          cases above with
          | ok _ => exact hdisk.ensureDir_keeps path
          | error e => exact .pure _
      · refine (hdisk.isDir_keeps path).bind fun isDir => ?_
        cases isDir
        · exact .pure _
        · exact .pure _

theorem makeDirs_keeps (hdisk : disk.IsMap files) (path : Path) :
    KeepsMap files (disk.makeDirs path) :=
  hdisk.makeDirsTo_keeps _ path

end IsMap

/-- Files in a map, some of which cannot be written. All directories are there. -/
def ofMap (readOnly : List Path) : Disk (StateM (Path → Option Bytes)) where
  read path files :=
    match files path with
    | some content => (.ok content, files)
    | none => (.error .notFound, files)
  write path content files :=
    if path ∈ readOnly then (.error .denied, files)
    else (.ok (), Function.update files path (some content))
  restrict _ files := (.ok (), files)
  makeDir _ files := (.error .alreadyExists, files)
  isPresent path files := ((files path).isSome, files)
  isDir _ files := (true, files)

variable {readOnly : List Path}

theorem ofMap_write_of_mem {path : Path} (h : path ∈ readOnly) (content : Bytes)
    (stored : Path → Option Bytes) :
    (ofMap readOnly).write path content stored = (.error .denied, stored) := if_pos h

theorem ofMap_write_of_notMem {path : Path} (h : path ∉ readOnly) (content : Bytes)
    (stored : Path → Option Bytes) :
    (ofMap readOnly).write path content stored =
      (.ok (), Function.update stored path (some content)) := if_neg h

theorem isMap_ofMap (readOnly : List Path) : (ofMap readOnly).IsMap id where
  read path stored := by
    simp only [ofMap, id]
    cases stored path <;> rfl
  read_keeps path stored := by
    simp only [ofMap]
    cases stored path <;> rfl
  write path content before after h := by
    by_cases hpath : path ∈ readOnly
    · rw [ofMap_write_of_mem hpath] at h
      cases h
    · rw [ofMap_write_of_notMem hpath] at h
      cases h
      rfl
  write_error path content before e after h := by
    by_cases hpath : path ∈ readOnly
    · rw [ofMap_write_of_mem hpath] at h
      cases h
      rfl
    · rw [ofMap_write_of_notMem hpath] at h
      cases h
  restrict_keeps _ _ := rfl
  makeDir_keeps _ _ := rfl
  isDir_keeps _ _ := rfl

theorem ofMap_makeDirs (path : Path) (stored : Path → Option Bytes) :
    (ofMap readOnly).makeDirs path stored = (.ok (), stored) := by
  rw [makeDirs, makeDirsTo]
  split
  · rfl
  · rfl

end Disk

end HybridTx
