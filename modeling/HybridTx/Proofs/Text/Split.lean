import HybridTx.Text.Split
import Mathlib.Data.List.TakeWhile

/-! Cutting a text undoes joining its parts, where the separator is in none of them. So the parts of
a text are told by what they are, and not by how they are found. -/

namespace HybridTx.Text

/-- The parts of a text: with separators between them they are the text, and no part has one in
it. -/
structure IsSplit (separator : Char) (text : List Char) (parts : List (List Char)) : Prop where
  ne_nil : parts ≠ []
  joined : [separator].intercalate parts = text
  separator_notMem : ∀ part ∈ parts, separator ∉ part

/-- What stands before the first separator of a text, and what stands behind it; nothing does where
there is no separator. -/
def IsCut (separator : Char) (text before behind : List Char) : Prop :=
  separator ∉ before ∧ (text = before ++ separator :: behind ∨ text = before ∧ behind = [])

theorem splitFrom_eq (separator : Char) (read text : List Char) :
    splitFrom separator read text = text.splitOnPPrepend (· == separator) read := by
  induction text generalizing read with
  | nil => rfl
  | cons c text ih =>
    rw [splitFrom, List.splitOnPPrepend_cons_eq_if, ih, ih, List.splitOnPPrepend_nil_right]
    simp only [beq_iff_eq]

theorem splitAt_eq_splitOn (separator : Char) (text : List Char) :
    splitAt separator text = text.splitOn separator := splitFrom_eq separator [] text

theorem splitAt_intercalate {separator : Char} {parts : List (List Char)} (hne : parts ≠ [])
    (h : ∀ part ∈ parts, separator ∉ part) :
    splitAt separator ([separator].intercalate parts) = parts := by
  rw [splitAt_eq_splitOn, List.splitOn_intercalate separator h hne]

theorem separator_notMem_splitFrom {separator : Char} {read text : List Char}
    (h : separator ∉ read) : ∀ part ∈ splitFrom separator read text, separator ∉ part := by
  induction text generalizing read with
  | nil => simpa [splitFrom] using h
  | cons c text ih =>
    rw [splitFrom]
    split
    · exact List.forall_mem_cons.mpr ⟨by simpa using h, ih nofun⟩
    · next hc => exact ih (List.not_mem_cons_of_ne_of_not_mem (Ne.symm hc) h)

/-- A text has one list of parts, and it is the one that splitting gives. -/
theorem splitAt_eq_iff {separator : Char} {text : List Char} {parts : List (List Char)} :
    splitAt separator text = parts ↔ IsSplit separator text parts := by
  constructor
  · rintro rfl
    refine ⟨?_, ?_, separator_notMem_splitFrom nofun⟩
    · rw [splitAt_eq_splitOn]
      exact List.splitOn_ne_nil separator text
    · rw [splitAt_eq_splitOn, List.intercalate_splitOn]
  · rintro ⟨hne, rfl, hparts⟩
    exact splitAt_intercalate hne hparts

theorem cutAt_append {separator : Char} {before : List Char} (h : separator ∉ before)
    (behind : List Char) :
    cutAt separator (before ++ separator :: behind) = (before, some behind) := by
  have hbefore : (before ++ separator :: behind).takeWhile (· ≠ separator) = before := by
    have hkept : ∀ c ∈ before, decide (c ≠ separator) = true := by
      intro c hc
      exact decide_eq_true fun heq => h (heq ▸ hc)
    rw [List.takeWhile_append_of_pos hkept]
    simp
  rw [cutAt]
  simp only [hbefore, List.drop_left]

theorem cutAt_of_notMem {separator : Char} {text : List Char} (h : separator ∉ text) :
    cutAt separator text = (text, none) := by
  have htext : text.takeWhile (· ≠ separator) = text := by
    rw [List.takeWhile_eq_self_iff]
    intro c hc
    exact decide_eq_true fun heq => h (heq ▸ hc)
  rw [cutAt]
  simp only [htext, List.drop_length]

theorem isCut_iff {separator : Char} {text before behind : List Char} :
    IsCut separator text before behind ↔
      (cutAt separator text).1 = before ∧ (cutAt separator text).2.getD [] = behind := by
  constructor
  · rintro ⟨hbefore, rfl | ⟨rfl, rfl⟩⟩
    · rw [cutAt_append hbefore]
      exact ⟨rfl, rfl⟩
    · rw [cutAt_of_notMem hbefore]
      exact ⟨rfl, rfl⟩
  · rintro ⟨rfl, rfl⟩
    by_cases h : separator ∈ text
    · obtain ⟨before, behind, rfl, hbefore⟩ := List.eq_append_cons_of_mem h
      rw [cutAt_append hbefore]
      exact ⟨hbefore, .inl rfl⟩
    · rw [cutAt_of_notMem h]
      exact ⟨h, .inr ⟨rfl, rfl⟩⟩

end HybridTx.Text
