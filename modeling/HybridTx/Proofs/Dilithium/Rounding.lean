import HybridTx.Dilithium.Rounding
import HybridTx.Proofs.Dilithium.Ring

/-! High and low parts of residues. Both parts of a residue add up to it, and a hint brings back the
high part from a residue that is less than a rounding step away. -/

namespace HybridTx.Dilithium

/-- The parameters of one of the three security levels. -/
def Parameters.IsLevel (p : Parameters) : Prop := p = level2 ∨ p = level3 ∨ p = level5

theorem modulus_eq : modulus = 8380417 := rfl

theorem splitDropped_spec {a : Nat} (ha : a < modulus) :
    (splitDropped a).1 < 2 ^ (23 - droppedBits) ∧ (splitDropped a).2 < modulus ∧
      difference (2 ^ (droppedBits - 1)) (splitDropped a).2 < 2 ^ droppedBits ∧
      ((splitDropped a).1 * 2 ^ droppedBits : ZMod modulus) + (splitDropped a).2 = a := by
  refine ⟨?_, difference_lt _ _, ?_, ?_⟩
  · simp only [splitDropped, droppedBits, modulus] at *
    omega
  · simp only [splitDropped, difference, droppedBits, modulus] at *
    omega
  · simp only [splitDropped]
    rw [cast_difference]
    push_cast
    ring

variable {p : Parameters}

/-- The half widths of a rounding step, and how many steps there are. -/
theorem Parameters.IsLevel.steps (hp : p.IsLevel) :
    p.step = 95232 ∧ highParts p = 44 ∨ p.step = 261888 ∧ highParts p = 16 := by
  obtain rfl | rfl | rfl := hp
  · exact .inl ⟨rfl, rfl⟩
  · exact .inr ⟨rfl, rfl⟩
  · exact .inr ⟨rfl, rfl⟩

theorem splitStep_spec (hp : p.IsLevel) {a : Nat} (ha : a < modulus) :
    (splitStep p a).1 < highParts p ∧ (splitStep p a).2 < modulus ∧
      ((splitStep p a).1 * (2 * p.step) : ZMod modulus) + (splitStep p a).2 = a := by
  simp only [splitStep]
  split
  · refine ⟨?_, ha, by rw [Nat.cast_zero, zero_mul, zero_add]⟩
    obtain ⟨-, hparts⟩ | ⟨-, hparts⟩ := hp.steps <;> simp [hparts]
  · next hhigh =>
    refine ⟨?_, difference_lt _ _, ?_⟩
    · rw [modulus_eq] at ha
      obtain ⟨hstep, hparts⟩ | ⟨hstep, hparts⟩ := hp.steps <;>
        rw [hstep, hparts] at hhigh ⊢ <;> omega
    · rw [cast_difference]
      push_cast
      ring

theorem magnitude_add_le {a b : Nat} (ha : a < modulus) (hb : b < modulus) :
    magnitude ((a + b) % modulus) ≤ magnitude a + magnitude b := by
  rw [modulus_eq] at *
  unfold magnitude
  rw [modulus_eq] at *
  split_ifs <;> omega

/-- A residue that lies within half a step of a step, as rounding sees it: half a step below belongs
to the step before, unless there is none. -/
def IsNear (p : Parameters) (high low : Nat) : Prop :=
  low ≤ p.step ∨ modulus - p.step < low ∧ low < modulus ∨ low = modulus - p.step ∧ high = 0

/-- The residue of a step and an offset, for offsets to both sides. -/
theorem residue_of_near (hp : p.IsLevel) {high low : Nat} (hhigh : high < highParts p)
    (hnear : IsNear p high low) :
    (high * (2 * p.step) + low) % modulus =
      if low ≤ p.step ∨ high = 0 then high * (2 * p.step) + low
      else high * (2 * p.step) + low - modulus := by
  rw [IsNear, modulus_eq] at *
  obtain ⟨hstep, hparts⟩ | ⟨hstep, hparts⟩ := hp.steps <;>
    simp only [hstep, hparts] at hhigh hnear ⊢ <;> split
  · exact Nat.mod_eq_of_lt (by omega)
  · rw [Nat.mod_eq_sub_mod (by omega), Nat.mod_eq_of_lt (by omega)]
  · exact Nat.mod_eq_of_lt (by omega)
  · rw [Nat.mod_eq_sub_mod (by omega), Nat.mod_eq_of_lt (by omega)]

theorem splitStep_of_near (hp : p.IsLevel) {high low : Nat} (hhigh : high < highParts p)
    (hnear : IsNear p high low) :
    splitStep p ((high * (2 * p.step) + low) % modulus) = (high, low) := by
  rw [residue_of_near hp hhigh hnear]
  simp only [IsNear, splitStep, difference] at *
  rw [modulus_eq] at *
  obtain ⟨hstep, hparts⟩ | ⟨hstep, hparts⟩ := hp.steps <;>
    simp only [hstep, hparts] at hhigh hnear ⊢ <;> split_ifs <;> rw [Prod.mk.injEq] <;> omega

theorem magnitude_of_lt {a : Nat} (h : 2 * a < modulus) : magnitude a = a := if_pos h

theorem magnitude_of_le {a : Nat} (h : modulus ≤ 2 * a) : magnitude a = modulus - a :=
  if_neg (not_lt.mpr h)

theorem needsHint_eq_true_iff {high low : Nat} :
    needsHint p low high = true ↔
      p.step < magnitude low ∨ low = modulus - p.step ∧ high ≠ 0 := by
  rw [needsHint, Bool.or_eq_true, decide_eq_true_eq, Bool.and_eq_true, beq_iff_eq, bne_iff_ne]

theorem isNear_of_not_needsHint {high low : Nat} (hlow : low < modulus)
    (h : ¬needsHint p low high = true) : IsNear p high low := by
  rw [needsHint_eq_true_iff, not_or, not_lt] at h
  obtain ⟨hsmall, hedge⟩ := h
  rw [IsNear]
  obtain hup | hdown := lt_or_ge (2 * low) modulus
  · rw [magnitude_of_lt hup] at hsmall
    exact .inl hsmall
  · rw [magnitude_of_le hdown] at hsmall
    omega

/-- A residue that needs a hint is near a neighbour of its step, on the far side of it. -/
theorem exists_near_neighbour (hp : p.IsLevel) {high low : Nat} (hhigh : high < highParts p)
    (hlow : low < modulus) (hnear : magnitude low < 2 * p.step) (h : needsHint p low high = true) :
    ∃ high' low', high' < highParts p ∧ IsNear p high' low' ∧
      (high * (2 * p.step) + low) % modulus = (high' * (2 * p.step) + low') % modulus ∧
      (2 * low' < modulus ∧ (high' + 1) % highParts p = high ∨
        modulus ≤ 2 * low' ∧ (high' + highParts p - 1) % highParts p = high) := by
  rw [needsHint_eq_true_iff] at h
  obtain hup | hdown := lt_or_ge (2 * low) modulus
  · rw [magnitude_of_lt hup] at h hnear
    simp only [IsNear, modulus_eq] at *
    by_cases hlast : high + 1 = highParts p
    · refine ⟨0, high * (2 * p.step) + low, ?_⟩
      obtain ⟨hstep, hparts⟩ | ⟨hstep, hparts⟩ := hp.steps <;>
        simp only [hstep, hparts, and_true] at * <;> omega
    · refine ⟨high + 1, low + 8380417 - 2 * p.step, ?_⟩
      obtain ⟨hstep, hparts⟩ | ⟨hstep, hparts⟩ := hp.steps <;>
        simp only [hstep, hparts] at * <;> omega
  · rw [magnitude_of_le hdown] at h hnear
    simp only [IsNear, modulus_eq] at *
    by_cases hfirst : high = 0
    · refine ⟨highParts p - 1, low + 2 * p.step - 8380416, ?_⟩
      obtain ⟨hstep, hparts⟩ | ⟨hstep, hparts⟩ := hp.steps <;>
        simp only [hstep, hparts] at * <;> omega
    · refine ⟨high - 1, low + 2 * p.step - 8380417, ?_⟩
      obtain ⟨hstep, hparts⟩ | ⟨hstep, hparts⟩ := hp.steps <;>
        simp only [hstep, hparts] at * <;> omega

/-- A hint brings back the high part of a residue that is less than a rounding step away. -/
theorem applyHint_needsHint (hp : p.IsLevel) {high low : Nat} (hhigh : high < highParts p)
    (hlow : low < modulus) (hnear : magnitude low < 2 * p.step) :
    applyHint p (needsHint p low high) ((high * (2 * p.step) + low) % modulus) = high := by
  cases h : needsHint p low high with
  | false =>
    have hplain : ¬needsHint p low high = true := by simp [h]
    rw [applyHint, splitStep_of_near hp hhigh (isNear_of_not_needsHint hlow hplain)]
    rfl
  | true =>
    obtain ⟨high', low', hhigh', hnear', hsame, hback⟩ :=
      exists_near_neighbour hp hhigh hlow hnear h
    rw [hsame, applyHint, splitStep_of_near hp hhigh' hnear']
    obtain ⟨hup, hback⟩ | ⟨hdown, hback⟩ := hback
    · simp [hup, hback]
    · simp [not_lt.mpr hdown, hback]

end HybridTx.Dilithium
