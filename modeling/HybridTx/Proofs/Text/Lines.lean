import HybridTx.Proofs.Text.Split
import HybridTx.Text.Blank
import Mathlib.Data.List.Basic
import Mathlib.Data.List.TakeWhile

/-! The last line of a text that is not blank. What stands in the lines before it, and what is blank
behind it, has no part in it. -/

namespace HybridTx.Text

/-- Nothing but blanks. -/
def IsBlanks (text : List Char) : Prop := ∀ c ∈ text, isBlank c = true

instance (text : List Char) : Decidable (IsBlanks text) :=
  decidable_of_iff (text.all isBlank = true) List.all_eq_true

/-- Something that has no blank at either end. -/
structure IsSolid (text : List Char) : Prop where
  ne_nil : text ≠ []
  head : ∀ c ∈ text.head?, isBlank c = false
  getLast : ∀ c ∈ text.getLast?, isBlank c = false

/-- Whole lines: nothing at all, or a text that ends in a line break. -/
def IsLines (text : List Char) : Prop := text = [] ∨ ∃ front, text = front ++ ['\n']

/-- The last line of a text that is not blank, less the blanks around it: whole lines stand before
it, and nothing but blanks behind it. -/
def LastLine (text line : List Char) : Prop :=
  ∃ front left right, text = front ++ (left ++ line ++ right) ∧ IsLines front ∧
    '\n' ∉ left ++ line ∧ IsBlanks left ∧ IsBlanks right ∧ IsSolid line

theorem IsLines.append {front back : List Char} (hfront : IsLines front) (hback : IsLines back) :
    IsLines (front ++ back) := by
  obtain rfl | ⟨back, rfl⟩ := hback
  · rwa [List.append_nil]
  · exact .inr ⟨front ++ back, (List.append_assoc _ _ _).symm⟩

section Trim

variable {left text right : List Char}

theorem dropWhile_append_solid (hleft : IsBlanks left) (h : ∀ c ∈ text.head?, isBlank c = false) :
    (left ++ text).dropWhile isBlank = text := by
  rw [List.dropWhile_append_of_pos hleft]
  cases text with
  | nil => rfl
  | cons c text => exact List.dropWhile_cons_of_neg (by simp [h c rfl])

/-- Trimming drops the blanks around something solid, and nothing else. -/
theorem trimChars_append_solid (hleft : IsBlanks left) (htext : IsSolid text) :
    trimChars (left ++ text) = text := by
  have hlast : ∀ c ∈ text.reverse.head?, isBlank c = false := by
    rw [List.head?_reverse]
    exact htext.getLast
  have hreverse := dropWhile_append_solid (nofun : IsBlanks []) hlast
  rw [List.nil_append] at hreverse
  rw [trimChars, dropWhile_append_solid hleft htext.head, hreverse, List.reverse_reverse]

theorem trimChars_append_blanks (text : List Char) (hright : IsBlanks right) :
    trimChars (text ++ right) = trimChars text := by
  have hreverse : IsBlanks right.reverse := fun c hc => hright c (List.mem_reverse.mp hc)
  rw [trimChars, trimChars, List.dropWhile_append]
  split
  · next hblanks =>
    rw [List.isEmpty_iff.mp hblanks, List.dropWhile_eq_nil_iff.mpr hright]
  · rw [List.reverse_append, List.dropWhile_append_of_pos hreverse]

theorem trimChars_eq_nil_iff : trimChars text = [] ↔ IsBlanks text := by
  constructor
  · intro h
    rw [trimChars, List.reverse_eq_nil_iff, List.dropWhile_eq_nil_iff] at h
    have hfront := List.head?_dropWhile_not isBlank text
    cases hrest : text.dropWhile isBlank with
    | nil => exact List.dropWhile_eq_nil_iff.mp hrest
    | cons c rest =>
      rw [hrest] at h hfront
      simp [h c (by simp)] at hfront
  · intro h
    exact trimChars_append_blanks [] h

end Trim

/-- The lines of a text that are not blank, less the blanks around them. -/
def solidLines (text : List Char) : List (List Char) :=
  ((splitAt '\n' text).map trimChars).filter (· ≠ [])

@[simp] theorem solidLines_nil : solidLines [] = [] := rfl

theorem solidLines_of_notMem {line : List Char} (h : '\n' ∉ line) :
    solidLines line = [trimChars line].filter (· ≠ []) := by
  rw [solidLines, splitAt_eq_splitOn, List.splitOn_eq_singleton h]
  rfl

theorem solidLines_append_break (front back : List Char) :
    solidLines (front ++ '\n' :: back) = solidLines front ++ solidLines back := by
  simp only [solidLines, splitAt_eq_splitOn, List.splitOn_append_cons_self, List.map_append,
    List.filter_append]

theorem solidLines_append {front : List Char} (h : IsLines front) (back : List Char) :
    solidLines (front ++ back) = solidLines front ++ solidLines back := by
  obtain rfl | ⟨front, rfl⟩ := h
  · rfl
  · rw [List.append_assoc, List.singleton_append, solidLines_append_break, solidLines_append_break,
      solidLines_nil, List.append_nil]

theorem exists_lines (text : List Char) :
    ∃ front line, text = front ++ line ∧ IsLines front ∧ '\n' ∉ line := by
  induction text with
  | nil => exact ⟨[], [], rfl, .inl rfl, nofun⟩
  | cons c text ih =>
    obtain ⟨_, line, rfl, rfl | ⟨front, rfl⟩, hline⟩ := ih
    · by_cases hc : c = '\n'
      · exact ⟨[c], line, rfl, .inr ⟨[], by rw [hc]; rfl⟩, hline⟩
      · exact ⟨[], c :: line, rfl, .inl rfl,
          List.not_mem_cons_of_ne_of_not_mem (Ne.symm hc) hline⟩
    · exact ⟨c :: (front ++ ['\n']), line, rfl, .inr ⟨c :: front, rfl⟩, hline⟩

theorem solidLines_append_blanks (text : List Char) {right : List Char} (h : IsBlanks right) :
    solidLines (text ++ right) = solidLines text := by
  induction right generalizing text with
  | nil => rw [List.append_nil]
  | cons c right ih =>
    obtain ⟨hc, hright⟩ := List.forall_mem_cons.mp h
    rw [List.append_cons, ih (text ++ [c]) hright]
    by_cases hbreak : c = '\n'
    · rw [hbreak, solidLines_append_break, solidLines_nil, List.append_nil]
    · obtain ⟨front, line, rfl, hfront, hline⟩ := exists_lines text
      have hlonger : '\n' ∉ line ++ [c] := by simp [hline, Ne.symm hbreak]
      have hblank : IsBlanks [c] := List.forall_mem_singleton.mpr hc
      rw [List.append_assoc, solidLines_append hfront, solidLines_append hfront,
        solidLines_of_notMem hlonger, solidLines_of_notMem hline,
        trimChars_append_blanks line hblank]

theorem solidLines_of_isBlanks {text : List Char} (h : IsBlanks text) : solidLines text = [] :=
  solidLines_append_blanks [] h

theorem LastLine.getLast?_solidLines {text line : List Char} (h : LastLine text line) :
    (solidLines text).getLast? = some line := by
  obtain ⟨front, left, right, rfl, hfront, hbreak, hleft, hright, hline⟩ := h
  rw [solidLines_append hfront, solidLines_append_blanks _ hright, solidLines_of_notMem hbreak,
    trimChars_append_solid hleft hline]
  simp [hline.ne_nil]

theorem break_ne {c : Char} (h : isBlank c = false) : '\n' ≠ c := by
  rintro rfl
  cases h

/-- A text has a line that is not blank, unless all of it is blank. -/
theorem exists_lastLine (text : List Char) : IsBlanks text ∨ ∃ line, LastLine text line := by
  induction text with
  | nil => exact .inl nofun
  | cons c text ih =>
    obtain hblanks | ⟨line, _, left, right, rfl, hfront, hbreak, hleft, hright, hline⟩ := ih
    · cases hc : isBlank c with
      | true => exact .inl (List.forall_mem_cons.mpr ⟨hc, hblanks⟩)
      | false =>
        exact .inr ⟨[c], [], [], text, rfl, .inl rfl, by simpa using break_ne hc, nofun, hblanks,
          by simp, by simpa, by simpa⟩
    obtain rfl | ⟨front, rfl⟩ := hfront
    · cases hc : isBlank c with
      | true =>
        by_cases hnext : c = '\n'
        · exact .inr ⟨line, [c], left, right, rfl, .inr ⟨[], by rw [hnext]; rfl⟩, hbreak, hleft,
            hright, hline⟩
        · exact .inr ⟨line, [], c :: left, right, rfl, .inl rfl,
            List.not_mem_cons_of_ne_of_not_mem (Ne.symm hnext) hbreak,
            List.forall_mem_cons.mpr ⟨hc, hleft⟩, hright, hline⟩
      | false =>
        have hlast : ∀ d ∈ (c :: (left ++ line)).getLast?, isBlank d = false := by
          rw [← List.cons_append, List.getLast?_append_of_ne_nil _ hline.ne_nil]
          exact hline.getLast
        exact .inr ⟨c :: (left ++ line), [], [], right, rfl, .inl rfl,
          List.not_mem_cons_of_ne_of_not_mem (break_ne hc) hbreak, nofun, hright,
          by simp, by simpa, hlast⟩
    · exact .inr ⟨line, c :: (front ++ ['\n']), left, right, rfl, .inr ⟨c :: front, rfl⟩, hbreak,
        hleft, hright, hline⟩

theorem getLast?_solidLines {text line : List Char} :
    (solidLines text).getLast? = some line ↔ LastLine text line := by
  refine ⟨fun h => ?_, LastLine.getLast?_solidLines⟩
  obtain hblanks | ⟨last, hlast⟩ := exists_lastLine text
  · simp [solidLines_of_isBlanks hblanks] at h
  · obtain rfl := Option.some.inj (hlast.getLast?_solidLines.symm.trans h)
    exact hlast

theorem LastLine.unique {text line other : List Char} (h : LastLine text line)
    (hother : LastLine text other) : line = other :=
  Option.some.inj (h.getLast?_solidLines.symm.trans hother.getLast?_solidLines)

theorem LastLine.append_left {front text line : List Char} (hfront : IsLines front)
    (h : LastLine text line) : LastLine (front ++ text) line := by
  obtain ⟨before, left, right, rfl, hbefore, hrest⟩ := h
  exact ⟨front ++ before, left, right, (List.append_assoc _ _ _).symm, hfront.append hbefore, hrest⟩

/-- Blanks behind a text do not change its last line, and give it none. -/
theorem lastLine_append_blanks {text line right : List Char} (hright : IsBlanks right) :
    LastLine (text ++ right) line ↔ LastLine text line := by
  rw [← getLast?_solidLines, solidLines_append_blanks text hright, getLast?_solidLines]

theorem isBlanks_iff {text : List Char} : IsBlanks text ↔ ∀ line, ¬LastLine text line := by
  constructor
  · intro h line hline
    have hlast := hline.getLast?_solidLines
    simp [solidLines_of_isBlanks h] at hlast
  · intro h
    exact (exists_lastLine text).resolve_right fun ⟨line, hline⟩ => h line hline

end HybridTx.Text
