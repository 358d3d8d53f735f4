import HybridTx.Proofs.Bytes.Digits
import HybridTx.Proofs.Keys.Store
import HybridTx.Proofs.Results
import HybridTx.Proofs.Text.Hex
import HybridTx.Proofs.Text.Lines

/-! The texts that are read as secret keys: the digits of a key, of which up to eight bytes of zeros
in front may be missing. Digits in full are read as the key that they spell, and no other. -/

namespace HybridTx

namespace Secp256k1

namespace SecretKey

/-- The digits in a text: less the blanks around, one `0x` in front, and capitals. -/
def digits (text : String) : List Char :=
  (Text.dropHexMark (Text.trimChars text.toList)).map Char.toLower

variable {key : SecretKey} {bytes : Bytes} {text : String}

theorem toNat_toBytes (key : SecretKey) : key.toBytes.toNat = key.scalar := by
  have hwidth : groupOrder ≤ 2 ^ (8 * 32) := by decide
  exact FixedBytes.toNat_ofNat (lt_of_lt_of_le key.lt hwidth)

theorem ofNat?_eq_some {scalar : Nat} : ofNat? scalar = some key ↔ key.scalar = scalar := by
  rw [ofNat?]
  constructor
  · intro h
    split at h
    · cases h
      rfl
    · cases h
  · rintro rfl
    rw [dif_pos ⟨key.pos, key.lt⟩]

/-- Bytes are read as the key that they are when zeros in front fill them up. -/
theorem ofBytes_eq_ok : ofBytes bytes = .ok key ↔
    24 ≤ bytes.length ∧ bytes.length ≤ 32 ∧
      List.replicate (32 - bytes.length) 0 ++ bytes = key.toBytes.bytes := by
  have hread : ofBytes bytes = .ok key ↔
      (24 ≤ bytes.length ∧ bytes.length ≤ 32) ∧ ofNat? bytes.toNat = some key := by
    rw [ofBytes]
    split
    · next h => cases ofNat? bytes.toNat <;> simp [h]
    · next h => simp [h]
  rw [hread, ofNat?_eq_some, and_assoc]
  refine and_congr_right fun _ => and_congr_right fun hlong => ?_
  have hvalue := Bytes.toNat_replicate_zero_append (32 - bytes.length) bytes
  have hlength : (List.replicate (32 - bytes.length) 0 ++ bytes).length = 32 := by
    rw [List.length_append, List.length_replicate]
    omega
  have hblocks : key.toBytes = ⟨_, hlength⟩ ↔ key.scalar = bytes.toNat := by
    rw [← FixedBytes.toNat_inj, toNat_toBytes, FixedBytes.toNat, hvalue]
  rw [← hblocks, FixedBytes.mk.injEq, eq_comm]

theorem ofHex_eq_ok_iff : ofHex text = .ok key ↔
    ∃ bytes, digits text = Hex.encodeChars bytes ∧ ofBytes bytes = .ok key := by
  rw [ofHex, bind_eq_ok]
  simp only [mapError_eq_ok, Hex.decodeMarked, Text.trim, String.toList_ofList,
    Hex.decodeChars_eq_ok]
  rfl

theorem toList_toHex (key : SecretKey) : key.toHex.toList = Hex.encodeChars key.toBytes.bytes :=
  String.toList_ofList

theorem ofHex_eq_ok : ofHex text = .ok key ↔
    ∃ count ≤ 8, List.replicate (2 * count) '0' ++ digits text = key.toHex.toList := by
  rw [ofHex_eq_ok_iff, toList_toHex]
  constructor
  · rintro ⟨bytes, hdigits, hread⟩
    obtain ⟨hshort, -, hkey⟩ := ofBytes_eq_ok.mp hread
    refine ⟨32 - bytes.length, by omega, ?_⟩
    rw [hdigits, ← hkey, Hex.encodeChars_append, Hex.encodeChars_replicate_zero]
  · rintro ⟨count, hcount, hdigits⟩
    have hlength := key.toBytes.length_eq
    rw [← List.take_append_drop count key.toBytes.bytes, Hex.encodeChars_append] at hdigits
    obtain ⟨hzeros, hrest⟩ := List.append_inj hdigits (by simp [hlength]; omega)
    rw [← Hex.encodeChars_replicate_zero] at hzeros
    have hdrop : (key.toBytes.bytes.drop count).length = 32 - count := by
      rw [List.length_drop, hlength]
    refine ⟨_, hrest, ofBytes_eq_ok.mpr ⟨by omega, by omega, ?_⟩⟩
    have hcount : 32 - (32 - count) = count := by omega
    rw [hdrop, hcount, Hex.encodeChars_injective hzeros, List.take_append_drop]

theorem exists_toHex_iff {spelled : List Char} :
    (∃ key : SecretKey, spelled = key.toHex.toList) ↔
      ∃ bytes, spelled = Hex.encodeChars bytes ∧ bytes.length = 32 ∧ 0 < bytes.toNat ∧
        bytes.toNat < groupOrder := by
  constructor
  · rintro ⟨key, hspelled⟩
    have hvalue : key.toBytes.bytes.toNat = key.scalar := toNat_toBytes key
    exact ⟨key.toBytes.bytes, hspelled.trans (toList_toHex key), key.toBytes.length_eq,
      lt_of_lt_of_eq key.pos hvalue.symm, lt_of_eq_of_lt hvalue key.lt⟩
  · rintro ⟨bytes, rfl, hlength, hpos, hlt⟩
    have hbytes : Bytes.bigEndian 32 bytes.toNat = bytes := by
      rw [← hlength, Bytes.bigEndian_toNat]
    refine ⟨⟨bytes.toNat, hpos, hlt⟩, ?_⟩
    rw [toList_toHex]
    exact congrArg Hex.encodeChars hbytes.symm

theorem digits_toHex_line (key : SecretKey) : digits (key.toHex ++ "\n") = key.toHex.toList := by
  have hbreak : Text.IsBlanks "\n".toList := by decide
  rw [digits, String.toList_append, Text.trimChars_append_blanks _ hbreak, toHex,
    Text.trimChars_eq_self Hex.isBlank_of_mem_encode, Hex.dropHexMark_encode, Hex.toList_encode,
    Hex.map_toLower_encodeChars]

end SecretKey

end Secp256k1

variable {σ : Type} {disk : Disk (StateM σ)} {path : Path} {content : Bytes}
  {before after : σ}

/-- What is written to a file is read from it, and is still there when the file is left to its
owner. -/
structure Disk.KeepsContent (disk : Disk (StateM σ)) : Prop where
  write : ∀ path content before after, disk.write path content before = (.ok (), after) →
    (disk.read path after).1 = .ok content
  restrict : ∀ path content state, (disk.read path state).1 = .ok content →
    (disk.read path (disk.restrict path state).2).1 = .ok content

namespace KeyStore

theorem read_of_writePrivate (hdisk : disk.KeepsContent)
    (h : writePrivate disk path content before = (.ok (), after)) :
    (disk.read path after).1 = .ok content := by
  rcases hwrite : disk.write path content before with ⟨e | _, written⟩
  · rw [writePrivate_of_error hwrite] at h
    cases h
  · rw [writePrivate_of_ok hwrite rfl] at h
    have hafter : (disk.restrict path written).2 = after := congrArg Prod.snd h
    rw [← hafter]
    exact hdisk.restrict path content written (hdisk.write path content before written hwrite)

theorem loadEcdsa_of_read {text : String}
    (h : disk.read path before = (.ok (Bytes.ofString text), after)) :
    loadEcdsa disk path before = (inFile path (Secp256k1.SecretKey.ofHex text), after) := by
  have htext : Utf8.decode (Bytes.ofString text) = .ok text := Utf8.decode_eq_ok_iff.mpr rfl
  simp only [loadEcdsa, Disk.readText, bind, StateT.bind, h, htext]
  rfl

theorem load_of_save (hdisk : disk.KeepsContent) {key : Secp256k1.SecretKey}
    (h : saveEcdsa disk path key before = (.ok (), after)) :
    (loadEcdsa disk path after).1 = .ok key := by
  have hread : (disk.read path after).1 = .ok (Bytes.ofString (key.toHex ++ "\n")) := by
    rw [saveEcdsa] at h
    rcases hparent : makeParent disk path before with ⟨e | _, made⟩
    · rw [bind_apply_of_eq hparent] at h
      cases h
    · rw [bind_apply_of_eq hparent] at h
      exact read_of_writePrivate hdisk h
  have hkey : Secp256k1.SecretKey.ofHex (key.toHex ++ "\n") = .ok key := by
    rw [Secp256k1.SecretKey.ofHex_eq_ok, Secp256k1.SecretKey.digits_toHex_line]
    exact ⟨0, Nat.zero_le 8, List.nil_append _⟩
  rw [loadEcdsa_of_read (Prod.ext hread rfl), hkey]
  rfl

end KeyStore

namespace Secp256k1.SecretKey

/-- Bytes and digits are read as the key that they are when zeros fill them up to their full number,
of which at most eight bytes may be missing. So a saved key is loaded, but a cut one may be read as
some other key. -/
theorem keys_read_when_filled_up (hdisk : disk.KeepsContent) :
    (∀ bytes key, ofBytes bytes = .ok key ↔ 24 ≤ bytes.length ∧ bytes.length ≤ 32 ∧
      List.replicate (32 - bytes.length) 0 ++ bytes = key.toBytes.bytes) ∧
    (∀ bytes key, ¬(24 ≤ bytes.length ∧ bytes.length < 32) →
      (ofBytes bytes = .ok key ↔ bytes = key.toBytes.bytes)) ∧
    (∀ text key, ofHex text = .ok key ↔
      ∃ count ≤ 8, List.replicate (2 * count) '0' ++ digits text = key.toHex.toList) ∧
    (∀ text key, ¬(48 ≤ (digits text).length ∧ (digits text).length < 64) →
      (ofHex text = .ok key ↔ digits text = key.toHex.toList)) ∧
    (∀ spelled, (∃ key : SecretKey, spelled = key.toHex.toList) ↔
      ∃ bytes, spelled = Hex.encodeChars bytes ∧ bytes.length = 32 ∧ 0 < bytes.toNat ∧
        bytes.toNat < groupOrder) ∧
    ∀ path key before after, KeyStore.saveEcdsa disk path key before = (.ok (), after) →
      (KeyStore.loadEcdsa disk path after).1 = .ok key := by
  refine ⟨fun _ _ => ofBytes_eq_ok, ?_, fun _ _ => ofHex_eq_ok, ?_, fun _ => exists_toHex_iff,
    fun _ _ _ _ => KeyStore.load_of_save hdisk⟩
  · intro bytes key hfull
    rw [ofBytes_eq_ok]
    constructor
    · rintro ⟨hshort, hlong, hkey⟩
      have hnone : 32 - bytes.length = 0 := by omega
      rwa [hnone] at hkey
    · intro hkey
      rw [hkey, key.toBytes.length_eq]
      exact ⟨by decide, le_rfl, List.nil_append _⟩
  · intro text key hfull
    rw [ofHex_eq_ok]
    have hlength : key.toHex.toList.length = 64 := by
      rw [toList_toHex, Hex.length_encodeChars, key.toBytes.length_eq]
    constructor
    · rintro ⟨count, hcount, hkey⟩
      have hall := congrArg List.length hkey
      rw [hlength, List.length_append, List.length_replicate] at hall
      have hnone : count = 0 := by omega
      rwa [hnone] at hkey
    · intro hkey
      exact ⟨0, Nat.zero_le 8, hkey⟩

/-- A file that is at first empty. Nothing else is kept. -/
def cell : Disk (StateM Bytes) where
  read _ content := (.ok content, content)
  write _ content _ := (.ok (), content)
  restrict _ content := (.ok (), content)
  makeDir _ content := (.ok (), content)
  isPresent _ content := (true, content)
  isDir _ content := (false, content)

/-- The key that 31 bytes are filled up to. -/
def filledKey : SecretKey where
  scalar := 0x8f2a55949038a9610f50fb23b5883af3b4ecb3c3bb792cbcefbd1542c692be
  pos := by decide
  lt := by decide

/-- The key is saved with its zeros, and loaded. -/
theorem keys_read_when_filled_up_cell :
    cell.KeepsContent ∧ (KeyStore.saveEcdsa cell "classical.key" filledKey []).1 = .ok () ∧
      (KeyStore.loadEcdsa cell "classical.key"
        (KeyStore.saveEcdsa cell "classical.key" filledKey []).2).1 = .ok filledKey := by
  have hcell : cell.KeepsContent := {
    write := by
      intro path content before after h
      obtain rfl : content = after := congrArg Prod.snd h
      rfl
    restrict := fun _ _ _ h => h }
  obtain ⟨-, -, -, -, -, hload⟩ := keys_read_when_filled_up hcell
  have hparent : Path.parent? "classical.key" = some "" := by decide +kernel
  have hsaved : (KeyStore.saveEcdsa cell "classical.key" filledKey []).1 = .ok () := by
    simp only [KeyStore.saveEcdsa, KeyStore.makeParent, hparent]
    rfl
  exact ⟨hcell, hsaved, hload _ _ _ _ (Prod.ext hsaved rfl)⟩

/-- Digits that lack their last byte are read, though they are the digits of no key. -/
theorem key_read_from_cut_text :
    let text := "8f2a55949038a9610f50fb23b5883af3b4ecb3c3bb792cbcefbd1542c692be"
    ofHex text = .ok filledKey ∧ digits text ≠ filledKey.toHex.toList := by
  intro text
  exact ⟨ofHex_eq_ok.mpr ⟨1, by decide, by decide +kernel⟩, by decide +kernel⟩

end Secp256k1.SecretKey

end HybridTx
