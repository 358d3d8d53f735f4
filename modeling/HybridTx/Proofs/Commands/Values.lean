import HybridTx.Commands.Fields
import HybridTx.Commands.View
import HybridTx.Proofs.Text.Hex

/-! Values on the command line that the program wrote: numbers in decimal digits, as amounts of any
size and as words, and bytes in hexadecimal digits, with or without the mark in front. -/

namespace HybridTx

/-- What a decimal digit is to the readers of numbers. -/
theorem Text.digitValue?_of_isDigit {c : Char} (h : c.isDigit = true) :
    digitValue? 10 c = some (c.toNat - '0'.toNat) := by
  obtain ⟨hlow, hhigh⟩ := Char.isDigit_iff_toNat.mp h
  have hrange : '0' ≤ c ∧ c ≤ '9' := ⟨hlow, hhigh⟩
  have hvalue : c.toNat - 48 < 10 := by
    have hnine : '9'.toNat = 57 := rfl
    omega
  rw [digitValue?, if_pos hrange]
  simp [hvalue]

theorem Text.isBlank_of_isDigit {c : Char} (h : c.isDigit = true) : isBlank c = false := by
  obtain ⟨hlow, hhigh⟩ := Char.isDigit_iff_toNat.mp h
  have hzero : '0'.toNat = 48 := rfl
  have hnine : '9'.toNat = 57 := rfl
  simp [isBlank]
  omega

theorem Text.digitsToNat_of_isDigit (value : Nat) {digits : List Char}
    (h : ∀ c ∈ digits, c.isDigit = true) :
    digitsToNat 10 value digits = Nat.ofDigitChars 10 digits value := by
  induction digits generalizing value with
  | nil => rfl
  | cons c digits ih =>
    obtain ⟨hc, hdigits⟩ := List.forall_mem_cons.mp h
    rw [Nat.ofDigitChars_cons, ← ih _ hdigits, digitsToNat, List.foldl_cons,
      digitValue?_of_isDigit hc, Nat.mul_comm]
    rfl

theorem isDigit_of_mem_toDigits {n : Nat} : ∀ c ∈ Nat.toDigits 10 n, c.isDigit = true :=
  fun _ hc => Nat.isDigit_of_mem_toDigits (by decide) (by decide) hc

theorem Text.digitsToNat_toDigits (n : Nat) : digitsToNat 10 0 (Nat.toDigits 10 n) = n := by
  rw [digitsToNat_of_isDigit 0 isDigit_of_mem_toDigits, Nat.ofDigitChars_ten_toDigits]

theorem toList_decimal (n : Nat) : (decimal n).toList = Nat.toDigits 10 n := String.toList_ofList

theorem trim_decimal (n : Nat) : Text.trim (decimal n) = decimal n := by
  have hdigits : ∀ c ∈ (decimal n).toList, Text.isBlank c = false := by
    intro c hc
    rw [toList_decimal] at hc
    exact Text.isBlank_of_isDigit (isDigit_of_mem_toDigits c hc)
  rw [Text.trim, Text.trimChars_eq_self hdigits, String.ofList_toList]

namespace Amount

/-- Digits are read as what they spell. -/
theorem readDigits_of_isDigit {digits : List Char} (hne : digits ≠ [])
    (h : ∀ c ∈ digits, c.isDigit = true) :
    readDigits 10 digits = .ok (Text.digitsToNat 10 0 digits) := by
  cases digits with
  | nil => exact absurd rfl hne
  | cons c rest =>
    have hc : c.isDigit = true := h c List.mem_cons_self
    have hplus : c ≠ '+' := by rintro rfl; cases hc
    have hblank : c ≠ '_' := by rintro rfl; cases hc
    have hkept : dropPlus (c :: rest) = c :: rest := by
      simp [dropPlus, hplus]
    have hall : (c :: rest).all (fun c => c == '_' || Text.isDigitOf 10 c) = true := by
      rw [List.all_eq_true]
      intro d hd
      rw [Text.isDigitOf, Text.digitValue?_of_isDigit (h d hd)]
      simp
    rw [readDigits, hkept]
    simp [hblank, hall]

theorem readTrimmed_toDigits (n : Nat) : readTrimmed (Nat.toDigits 10 n) = .ok n := by
  have hmark : ∀ rest : List Char, Nat.toDigits 10 n ≠ '0' :: 'x' :: rest := by
    intro rest h
    have hx : 'x' ∈ Nat.toDigits 10 n := by simp [h]
    exact absurd (isDigit_of_mem_toDigits 'x' hx) (by decide)
  have hread := readDigits_of_isDigit Nat.toDigits_ne_nil (isDigit_of_mem_toDigits (n := n))
  rw [Text.digitsToNat_toDigits] at hread
  rw [readTrimmed, hread]
  · exact hmark []
  · exact hmark

end Amount

theorem readAmount_decimal (name : String) (n : Nat) : readAmount name (decimal n) = .ok n := by
  rw [readAmount, trim_decimal, toList_decimal, Amount.readTrimmed_toDigits]
  rfl

theorem decimal_injective : Function.Injective decimal := by
  intro n m h
  have hread := readAmount_decimal "" n
  rw [h, readAmount_decimal] at hread
  exact (Except.ok.inj hread).symm

theorem readWord?_decimal (word : UInt64) : readWord? (decimal word.toNat) = some word := by
  have hdigits := isDigit_of_mem_toDigits (n := word.toNat)
  have hall : (Nat.toDigits 10 word.toNat).all Char.isDigit = true := List.all_eq_true.mpr hdigits
  rw [readWord?, toList_decimal]
  split
  · next rest h =>
    have hplus : '+' ∈ Nat.toDigits 10 word.toNat := by simp [h]
    exact absurd (hdigits '+' hplus) (by decide)
  · rw [if_pos ⟨Nat.toDigits_ne_nil, hall⟩, Text.digitsToNat_toDigits, if_pos word.toNat_lt,
      UInt64.ofNat_toNat]

theorem readDigits_encodeMarked (name : String) (bytes : Bytes) :
    readDigits name (Hex.encodeMarked bytes) = .ok bytes := by
  rw [readDigits, Hex.trim_encodeMarked, Hex.decodeMarked_encodeMarked]
  rfl

theorem readDigits_encode (name : String) (bytes : Bytes) :
    readDigits name (Hex.encode bytes) = .ok bytes := by
  rw [readDigits, Hex.trim_encode, Hex.decodeMarked_encode]
  rfl

end HybridTx
