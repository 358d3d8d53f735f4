import HybridTx.Proofs.Text.Numeral
import HybridTx.Proofs.Transaction.Fields

/-! The texts of accounts and of hashes. One rule reads both: a text is the digits of the bytes, in
capitals or not, perhaps behind one `0x`. No other text is read, and the displayed form is. -/

namespace HybridTx

/-- Reads the digits of a byte string of a fixed length; a fault is one of `field`. -/
def fixedOfHex (field : String) (size : Nat) (text : String) :
    Except TransactionError (FixedBytes size) :=
  decodeFieldHex field text >>= fixedField field size

section Block

variable {field text : String} {size : Nat} {block : FixedBytes size}

theorem decodeFieldHex_eq_ok {bytes : Bytes} :
    decodeFieldHex field text = .ok bytes ↔ ∃ digits, Hex.IsMarked text.toList digits ∧
      digits.map Char.toLower = Hex.encodeChars bytes := by
  rw [decodeFieldHex, mapError_eq_ok, Hex.decodeMarked, Hex.decodeChars_dropHexMark_eq_ok]

theorem fixedOfHex_eq_ok :
    fixedOfHex field size text = .ok block ↔
      ∃ digits, Hex.IsMarked text.toList digits ∧ digits.length = 2 * size ∧
        digits.map Char.toLower = (Hex.encode block.bytes).toList := by
  simp only [fixedOfHex, bind_eq_ok, decodeFieldHex_eq_ok, fixedField_eq_ok, Hex.toList_encode]
  constructor
  · rintro ⟨bytes, ⟨digits, hmarked, hdigits⟩, rfl⟩
    have hlength := Hex.length_of_toLower hdigits
    rw [block.length_eq] at hlength
    exact ⟨digits, hmarked, hlength, hdigits⟩
  · rintro ⟨digits, hmarked, -, hdigits⟩
    exact ⟨_, ⟨digits, hmarked, hdigits⟩, rfl⟩

theorem exists_fixedOfHex_iff :
    (∃ block, fixedOfHex field size text = .ok block) ↔
      ∃ digits, Hex.IsMarked text.toList digits ∧ digits.length = 2 * size := by
  simp only [fixedOfHex_eq_ok]
  constructor
  · rintro ⟨block, digits, hmarked, hlength, -⟩
    exact ⟨digits, hmarked, hlength⟩
  · rintro ⟨digits, hmarked, hlength⟩
    obtain ⟨bytes, hbytes⟩ := Hex.exists_encodeChars_iff.mpr ⟨by omega, hmarked.2⟩
    have hsize : bytes.length = size := by
      have := Hex.length_of_toLower hbytes
      omega
    exact ⟨⟨bytes, hsize⟩, digits, hmarked, hlength, hbytes.trans (Hex.toList_encode bytes).symm⟩

theorem invalidField_of_fixedOfHex {e : TransactionError}
    (h : fixedOfHex field size text = .error e) : ∃ reason, e = .invalidField field reason := by
  rw [fixedOfHex, bind_eq_error] at h
  rcases h with h | ⟨bytes, -, h⟩
  · obtain ⟨fault, -, rfl⟩ := mapError_eq_error.mp h
    exact ⟨_, rfl⟩
  · unfold fixedField at h
    split at h
    · cases h
    · cases h
      exact ⟨_, rfl⟩

/-- A text is refused, as a fault of the field, just when it is not the digits of as many bytes. -/
theorem fixedOfHex_eq_error :
    (∃ reason, fixedOfHex field size text = .error (.invalidField field reason)) ↔
      ¬∃ digits, Hex.IsMarked text.toList digits ∧ digits.length = 2 * size := by
  rw [← @exists_fixedOfHex_iff field]
  cases hread : fixedOfHex field size text with
  | ok block => simp
  | error e =>
    obtain ⟨reason, rfl⟩ := invalidField_of_fixedOfHex hread
    simp

theorem fixedOfHex_encode : fixedOfHex field size (Hex.encode block.bytes) = .ok block := by
  rw [fixedOfHex, bind_eq_ok]
  refine ⟨block.bytes, ?_, fixedField_eq_ok.mpr rfl⟩
  rw [decodeFieldHex, mapError_eq_ok, Hex.decodeMarked_encode]

theorem fixedOfHex_encodeMarked :
    fixedOfHex field size (Hex.encodeMarked block.bytes) = .ok block := by
  rw [fixedOfHex, bind_eq_ok]
  refine ⟨block.bytes, ?_, fixedField_eq_ok.mpr rfl⟩
  rw [decodeFieldHex, mapError_eq_ok, Hex.decodeMarked_encodeMarked]

end Block

namespace Address

variable {text : String} {address : Address}

theorem ofHex_eq (text : String) : ofHex text = (fixedOfHex "address" 20 text).map mk := by
  unfold ofHex fixedOfHex
  cases decodeFieldHex "address" text <;> rfl

theorem ofHex_eq_ok :
    ofHex text = .ok address ↔ ∃ digits, Hex.IsMarked text.toList digits ∧ digits.length = 40 ∧
      digits.map Char.toLower = address.toHex.toList := by
  obtain ⟨block⟩ := address
  simp only [ofHex_eq, map_eq_ok, mk.injEq, exists_eq_right]
  exact fixedOfHex_eq_ok

theorem exists_ofHex_iff :
    (∃ address, ofHex text = .ok address) ↔
      ∃ digits, Hex.IsMarked text.toList digits ∧ digits.length = 40 := by
  have hblock := @exists_fixedOfHex_iff "address" text 20
  rw [← hblock, ofHex_eq]
  cases fixedOfHex "address" 20 text <;> simp [Except.map]

theorem ofHex_display (address : Address) : ofHex address.display = .ok address := by
  rw [ofHex_eq, map_eq_ok]
  exact ⟨_, fixedOfHex_encodeMarked, rfl⟩

end Address

namespace TxHash

variable {text : String} {hash : TxHash}

theorem ofHex_eq (text : String) : ofHex text = (fixedOfHex "hash" 32 text).map mk := by
  unfold ofHex fixedOfHex
  cases decodeFieldHex "hash" text <;> rfl

theorem ofHex_eq_ok :
    ofHex text = .ok hash ↔ ∃ digits, Hex.IsMarked text.toList digits ∧ digits.length = 64 ∧
      digits.map Char.toLower = hash.toHex.toList := by
  obtain ⟨block⟩ := hash
  simp only [ofHex_eq, map_eq_ok, mk.injEq, exists_eq_right]
  exact fixedOfHex_eq_ok

theorem ofHex_encode (hash : TxHash) : ofHex (Hex.encode hash.bytes) = .ok hash := by
  rw [ofHex_eq, map_eq_ok]
  exact ⟨_, fixedOfHex_encode, rfl⟩

theorem ofHex_display (hash : TxHash) : ofHex hash.display = .ok hash := by
  rw [ofHex_eq, map_eq_ok]
  exact ⟨_, fixedOfHex_encodeMarked, rfl⟩

end TxHash

/-- An address is read from 40 digits and a hash from 64, in capitals or not, perhaps behind one
`0x`: those that are its own. Every other text is refused as a fault of the field, and what is
displayed is read back. -/
theorem texts_read_exactly :
    (∀ (text : String) (address : Address), Address.ofHex text = .ok address ↔
      ∃ digits, Hex.IsMarked text.toList digits ∧ digits.length = 40 ∧
        digits.map Char.toLower = address.toHex.toList) ∧
    (∀ (text : String) (hash : TxHash), TxHash.ofHex text = .ok hash ↔
      ∃ digits, Hex.IsMarked text.toList digits ∧ digits.length = 64 ∧
        digits.map Char.toLower = hash.toHex.toList) ∧
    (∀ text, (∃ reason, Address.ofHex text = .error (.invalidField "address" reason)) ↔
      ¬∃ digits, Hex.IsMarked text.toList digits ∧ digits.length = 40) ∧
    (∀ text, (∃ reason, TxHash.ofHex text = .error (.invalidField "hash" reason)) ↔
      ¬∃ digits, Hex.IsMarked text.toList digits ∧ digits.length = 64) ∧
    (∀ address : Address, Address.ofHex address.display = .ok address) ∧
    ∀ hash : TxHash, TxHash.ofHex hash.display = .ok hash := by
  refine ⟨fun _ _ => Address.ofHex_eq_ok, fun _ _ => TxHash.ofHex_eq_ok, fun text => ?_,
    fun text => ?_, Address.ofHex_display, TxHash.ofHex_display⟩
  · simp only [Address.ofHex_eq, map_eq_error]
    exact fixedOfHex_eq_error
  · simp only [TxHash.ofHex_eq, map_eq_error]
    exact fixedOfHex_eq_error

end HybridTx
