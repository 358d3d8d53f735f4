import HybridTx.Proofs.Rlp.RoundTrip

/-! The extent of an item. Its header announces how many bytes it takes up; so a reader misses those
that are cut off, and leaves those that are added. -/

namespace HybridTx.Rlp

theorem decodeLongLength_short {width : Nat} {input : Bytes} (h : input.length < width) :
    decodeLongLength width input = .error .unexpectedEnd := by
  have hfield : (input.take width).length < width := by
    rw [List.length_take]
    omega
  simp only [decodeLongLength, if_pos hfield]

theorem splitPayload_short {start length : Nat} {input : Bytes}
    (hbound : start + length < lengthBound) (h : input.length < length) :
    splitPayload start length input = .error .unexpectedEnd := by
  have hpayload : (input.take length).length < length := by
    rw [List.length_take]
    omega
  simp only [splitPayload, if_neg (Nat.not_le.mpr hbound), if_pos hpayload]

/-- A header that is cut off behind its first byte has lost bytes of its length field. -/
theorem Header.read_cut {byte : UInt8} (hbyte : 0x80 ≤ byte) {header : Header}
    (hbound : header.length < lengthBound) {cut rest : Bytes}
    (h : byte :: (cut ++ rest) = header.encode) (hrest : rest ≠ []) :
    Header.read byte cut = .error .unexpectedEnd := by
  by_cases hshort : header.length < shortLimit
  · rw [encode_short hshort] at h
    have hnil := (List.cons.inj h).2
    exact absurd (List.append_eq_nil_iff.mp hnil).2 hrest
  · have hlong := Nat.le_of_not_lt hshort
    rw [encode_long hlong] at h
    obtain ⟨hfirst, hfield⟩ := List.cons.inj h
    have hpos := length_ofNat_pos hlong
    have hwidth := length_ofNat_le_eight hbound
    obtain ⟨-, hcode⟩ := (Kind.eq_first_iff hbyte (by omega)).mp hfirst
    have hcut : cut.length < (Bytes.ofNat header.length).length := by
      have hrest' := List.length_pos_iff.mpr hrest
      rw [← hfield, List.length_append]
      omega
    rw [read, hcode, if_neg (by rw [shortLimit]; omega), Nat.add_sub_cancel_left,
      decodeLongLength_short hcut]
    rfl

/-- An item is one byte, or a header in front of the payload that it announces. -/
theorem Item.encode_framed (item : Item) :
    (∃ byte, item.encode = [byte]) ∨ ∃ (header : Header) (payload : Bytes),
      payload.length = header.length ∧ item.encode = header.encode ++ payload := by
  cases item with
  | bytes payload =>
    obtain ⟨byte, -, -, hencode⟩ | ⟨-, hencode⟩ := Item.encode_bytes payload
    · exact .inl ⟨byte, hencode⟩
    · exact .inr ⟨_, payload, rfl, hencode⟩
  | list items => exact .inr ⟨_, _, rfl, Item.encode_list items⟩

theorem decodeItem_cutHeader (levels : Nat) {header : Header}
    (hbound : header.length < lengthBound) {cut rest : Bytes} (h : cut ++ rest = header.encode)
    (hcut : cut ≠ []) (hrest : rest ≠ []) :
    decodeItem (levels + 1) cut = .error .unexpectedEnd := by
  obtain ⟨byte, cut, rfl⟩ := List.exists_cons_of_ne_nil hcut
  have hinput : byte :: (cut ++ rest) = header.encode ++ [] := by rw [List.append_nil, ← h]; rfl
  have hbyte := Header.le_of_encode hbound hinput
  rw [decodeItem_header levels hbyte, Header.read_cut hbyte hbound h hrest]
  rfl

theorem decodeItem_cutPayload (levels : Nat) {header : Header}
    (hbound : header.encode.length + header.length < lengthBound) {part : Bytes}
    (hpart : part.length < header.length) :
    decodeItem (levels + 1) (header.encode ++ part) = .error .unexpectedEnd := by
  rw [decodeItem_encode_append levels (by omega), Header.readItem, splitPayload_short hbound hpart]
  rfl

/-- What is left of an item when its last bytes are cut off is no item, for want of these bytes. -/
theorem decodeItem_cut (levels : Nat) {item : Item} (hlength : item.encode.length < lengthBound)
    {cut rest : Bytes} (h : cut ++ rest = item.encode) (hcut : cut ≠ []) (hrest : rest ≠ []) :
    decodeItem (levels + 1) cut = .error .unexpectedEnd := by
  have hlost := List.length_pos_iff.mpr hrest
  obtain ⟨byte, hencode⟩ | ⟨header, payload, hpayload, hencode⟩ := item.encode_framed
  · have hkept := List.length_pos_iff.mpr hcut
    have hone := congrArg List.length h
    rw [hencode, List.length_append, List.length_singleton] at hone
    omega
  · rw [hencode, List.length_append, hpayload] at hlength
    rw [hencode] at h
    obtain hheader | hheader := Nat.lt_or_ge cut.length header.encode.length
    · obtain ⟨lost, hsplit⟩ :=
        List.prefix_of_prefix_length_le ⟨rest, h⟩ ⟨payload, rfl⟩ hheader.le
      apply decodeItem_cutHeader levels (by omega) hsplit hcut
      rintro rfl
      rw [← hsplit, List.append_nil] at hheader
      exact Nat.lt_irrefl _ hheader
    · obtain ⟨part, rfl⟩ :=
        List.prefix_of_prefix_length_le ⟨payload, rfl⟩ ⟨rest, h⟩ hheader
      rw [List.append_assoc] at h
      apply decodeItem_cutPayload levels hlength
      rw [← hpayload, ← List.append_cancel_left h, List.length_append]
      omega

/-- A proper part of an encoding, from its start, is refused as too short. -/
theorem decode_cut {item : Item} (hlength : item.encode.length < lengthBound) {cut rest : Bytes}
    (h : cut ++ rest = item.encode) (hrest : rest ≠ []) :
    decode cut = .error (if cut = [] then .emptyInput else .unexpectedEnd) := by
  by_cases hcut : cut = []
  · rw [if_pos hcut, hcut]
    rfl
  · rw [if_neg hcut]
    exact decodeItem_cut maxDepth hlength h hcut hrest

theorem decodeExact_cut {item : Item} (hlength : item.encode.length < lengthBound)
    {cut rest : Bytes} (h : cut ++ rest = item.encode) (hrest : rest ≠ []) :
    decodeExact cut = .error (if cut = [] then .emptyInput else .unexpectedEnd) := by
  rw [decodeExact, decode_cut hlength h hrest]
  rfl

/-- An encoding with bytes behind it is refused for these bytes. -/
theorem decodeExact_encode_append (item : Item) (hlength : item.encode.length < lengthBound)
    (hdepth : item.depth ≤ maxDepth) {extra : Bytes} (hextra : extra ≠ []) :
    decodeExact (item.encode ++ extra) = .error .trailingBytes := by
  rw [decodeExact, decode_encode item hlength, if_pos hdepth]
  obtain ⟨byte, extra, rfl⟩ := List.exists_cons_of_ne_nil hextra
  rfl

end HybridTx.Rlp
