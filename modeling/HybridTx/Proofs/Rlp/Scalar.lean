import HybridTx.Proofs.Rlp.Accessors
import HybridTx.Proofs.Rlp.RoundTrip

/-! Numbers as byte strings. There is a reader of numbers of any size and one of words, and a writer
for each. They agree wherever a word holds the number, in what they refuse too. -/

namespace HybridTx.Rlp

namespace Item

theorem asScalar_eq_error {payload : Bytes} {e : Error} :
    (Item.bytes payload).asScalar = .error e ↔ payload.head? = some 0 ∧ e = .leadingZero := by
  rw [← fault?_eq_some, fault?_asScalar, scalarFault]
  split
  · next hzero => simp [hzero, eq_comm]
  · next hzero => simp [hzero]

theorem asWord_eq_ok_iff_asScalar {item : Item} {word : UInt64} :
    item.asWord = .ok word ↔ item.asScalar = .ok word.toNat := by
  rw [asWord_eq_ok, asScalar_eq_ok, wordDigits_eq_ofNat]

theorem exists_asWord_iff {item : Item} {value : Nat} :
    (∃ word, item.asWord = .ok word ∧ word.toNat = value) ↔
      item.asScalar = .ok value ∧ value < 2 ^ 64 := by
  simp only [asWord_eq_ok_iff_asScalar]
  constructor
  · rintro ⟨word, hscalar, rfl⟩
    exact ⟨hscalar, word.toNat_lt⟩
  · rintro ⟨hscalar, hfits⟩
    have hvalue := UInt64.toNat_ofNat_of_lt' hfits
    exact ⟨.ofNat value, by rwa [hvalue], hvalue⟩

/-- More than eight digits, the first not zero, spell a number that no word holds. -/
theorem exists_large_asScalar_iff {payload : Bytes} :
    (∃ value, (Item.bytes payload).asScalar = .ok value ∧ 2 ^ 64 ≤ value) ↔
      payload.head? ≠ some 0 ∧ 8 < payload.length := by
  simp only [asScalar_eq_ok, Item.bytes.injEq]
  have hlong : ∀ value, 2 ^ 64 ≤ value ↔ 8 < (Bytes.ofNat value).length := by
    intro value
    rw [← not_iff_not, not_le, not_lt, Bytes.length_ofNat_le_iff]
  constructor
  · rintro ⟨value, rfl, hlarge⟩
    exact ⟨Bytes.head?_ofNat value, (hlong value).mp hlarge⟩
  · rintro ⟨hhead, hlength⟩
    have hdigits := Bytes.ofNat_toNat hhead
    exact ⟨_, hdigits.symm, (hlong _).mpr (by rwa [hdigits])⟩

/-- What is refused as a word is refused as a number, or is a number too large for a word. -/
theorem asWord_eq_error {payload : Bytes} {e : Error} :
    (Item.bytes payload).asWord = .error e ↔
      (Item.bytes payload).asScalar = .error e ∨
        (∃ value, (Item.bytes payload).asScalar = .ok value ∧ 2 ^ 64 ≤ value) ∧
          e = .scalarOverflow payload.length 8 := by
  rw [exists_large_asScalar_iff, asScalar_eq_error, ← fault?_eq_some, fault?_asWord, wordFault]
  split
  · next hzero => simp [hzero, eq_comm]
  · next hzero =>
    split
    · next hlong => simp [hzero, hlong, eq_comm]
    · next hshort => simp [hzero, hshort]

end Item

theorem encodeWord_eq_encodeScalar (word : UInt64) : encodeWord word = encodeScalar word.toNat := by
  rw [encodeWord, wordDigits_eq_ofNat, encodeScalar]

theorem decodeExact_encodeScalar {value : Nat}
    (hlength : (encodeScalar value).length < lengthBound) :
    (decodeExact (encodeScalar value)).bind Item.asScalar = .ok value := by
  have hencode : encodeScalar value = (Item.bytes (.ofNat value)).encode := by
    rw [Item.encode, encodeScalar]
  have hdepth : (Item.bytes (.ofNat value)).depth ≤ maxDepth := by
    rw [Item.depth]
    exact Nat.zero_le _
  have hread : decodeExact (encodeScalar value) = .ok (.bytes (.ofNat value)) := by
    rw [hencode] at hlength ⊢
    rw [decodeExact_encode _ hlength, if_pos hdepth]
  rw [hread]
  exact Item.asScalar_eq_ok.mpr rfl

/-- A byte string is read as the number that is written with its bytes, and is refused exactly when
it starts with zero. As a word the same number is read if it is below 2⁶⁴, and every number is read
back. -/
theorem scalar_readings_agree :
    (∀ payload value, (Item.bytes payload).asScalar = .ok value ↔ payload = Bytes.ofNat value) ∧
    (∀ payload e, (Item.bytes payload).asScalar = .error e ↔
      payload.head? = some 0 ∧ e = .leadingZero) ∧
    (∀ payload value, (∃ word, (Item.bytes payload).asWord = .ok word ∧ word.toNat = value) ↔
      (Item.bytes payload).asScalar = .ok value ∧ value < 2 ^ 64) ∧
    (∀ payload e, (Item.bytes payload).asWord = .error e ↔
      (Item.bytes payload).asScalar = .error e ∨
        (∃ value, (Item.bytes payload).asScalar = .ok value ∧ 2 ^ 64 ≤ value) ∧
          e = .scalarOverflow payload.length 8) ∧
    (∀ word, encodeWord word = encodeScalar word.toNat) ∧
    ∀ value, (encodeScalar value).length < lengthBound →
      (decodeExact (encodeScalar value)).bind Item.asScalar = .ok value := by
  refine ⟨fun payload value => ?_, fun _ _ => Item.asScalar_eq_error,
    fun _ _ => Item.exists_asWord_iff, fun _ _ => Item.asWord_eq_error, encodeWord_eq_encodeScalar,
    fun _ hlength => decodeExact_encodeScalar hlength⟩
  rw [Item.asScalar_eq_ok, Item.bytes.injEq]

/-- The first number that no word holds. -/
theorem scalar_readings_agree_past_words :
    (encodeScalar (2 ^ 64)).length < lengthBound ∧
      (decodeExact (encodeScalar (2 ^ 64))).bind Item.asScalar = .ok (2 ^ 64) ∧
      (Item.bytes (.ofNat (2 ^ 64))).asWord = .error (.scalarOverflow 9 8) := by
  obtain ⟨hscalar, -, -, hword, -, hread⟩ := scalar_readings_agree
  have hlength : (encodeScalar (2 ^ 64)).length < lengthBound := by decide
  exact ⟨hlength, hread _ hlength,
    (hword _ _).mpr (.inr ⟨⟨_, (hscalar _ _).mpr rfl, le_rfl⟩, rfl⟩)⟩

end HybridTx.Rlp
