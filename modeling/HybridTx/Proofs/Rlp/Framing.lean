import HybridTx.Proofs.Rlp.Header

/-! Items as payloads behind headers. `decodeItem` tells five classes of first bytes apart; it takes
one small byte as it stands, and in the other four classes reads a header, splits off the payload
that the header announces, and reads the payload. -/

namespace HybridTx.Rlp

/-- The byte string with this payload behind a header; a payload that is its own encoding is
refused. -/
def Item.ofPayload (payload : Bytes) : Except Error Item :=
  match payload with
  | [byte] => if byte < stringOffset then .error .wrappedByte else .ok (.bytes [byte])
  | payload => .ok (.bytes payload)

theorem Item.ofPayload_long {payload : Bytes} (h : payload.length ≠ 1) :
    Item.ofPayload payload = .ok (.bytes payload) := by
  match payload with
  | [] | _ :: _ :: _ => rfl
  | [byte] => exact absurd rfl h

namespace Header

/-- Reads a payload; that of a list item by item. -/
def readPayload (header : Header) (read : Bytes → Except Error (Item × Bytes)) (payload : Bytes) :
    Except Error Item :=
  match header.kind with
  | .string => Item.ofPayload payload
  | .list => (readItems read header.length [] payload).map .list

/-- Reads what stands behind a header. -/
def readItem (header : Header) (read : Bytes → Except Error (Item × Bytes)) (input : Bytes) :
    Except Error (Item × Bytes) := do
  let (payload, rest) ← splitPayload header.encode.length header.length input
  let item ← header.readPayload read payload
  .ok (item, rest)

theorem readItem_list (length : Nat) (read : Bytes → Except Error (Item × Bytes)) (input : Bytes) :
    (Header.mk .list length).readItem read input =
      decodeListPayload read (Header.mk .list length).encode.length length input := by
  rw [readItem, decodeListPayload]
  cases splitPayload (Header.mk .list length).encode.length length input with
  | error e => rfl
  | ok split =>
    simp only [bind, Except.bind, readPayload]
    cases readItems read length [] split.1 <;> rfl

/-- A long payload is never its own encoding. -/
theorem readItem_longString {length : Nat} (hlong : shortLimit ≤ length)
    (read : Bytes → Except Error (Item × Bytes)) (input : Bytes) :
    (Header.mk .string length).readItem read input = (do
      let (payload, rest) ← splitPayload (Header.mk .string length).encode.length length input
      .ok (.bytes payload, rest)) := by
  rw [readItem]
  cases hsplit : splitPayload (Header.mk .string length).encode.length length input with
  | error e => rfl
  | ok split =>
    have hlength : split.1.length = length := (splitPayload_eq_ok_iff.mp hsplit).2.1
    rw [shortLimit] at hlong
    simp only [bind, Except.bind, readPayload]
    rw [Item.ofPayload_long (by omega)]

end Header

theorem decodeItem_small (levels : Nat) {byte : UInt8} (hbyte : byte < 0x80) (input : Bytes) :
    decodeItem (levels + 1) (byte :: input) = .ok (.bytes [byte], input) := by
  rw [decodeItem, if_pos hbyte]

theorem decodeItem_shortString (levels : Nat) {code : Nat} (hcode : code < shortLimit)
    (input : Bytes) :
    decodeItem (levels + 1) (Kind.string.first code :: input) =
      (Header.mk .string code).readItem (decodeItem levels) input := by
  have hstart := Header.length_encode_short ⟨.string, code⟩ hcode
  rw [shortLimit] at hcode
  have hclass := Kind.string.first_lt_iff (show code < 64 by omega)
  have hlength : (Kind.string.first code - 0x80).toNat = 128 + code - 128 :=
    Kind.string.toNat_first_sub (by omega) (show 128 ≤ 128 + code by omega)
  rw [decodeItem, if_neg (mt (hclass 0x80).mp (show ¬128 + code < 128 by omega)),
    if_pos ((hclass 0xb8).mpr (show 128 + code < 184 by omega)), hlength, Nat.add_sub_cancel_left,
    Header.readItem, hstart]
  cases splitPayload 1 code input with
  | error e => rfl
  | ok split =>
    obtain ⟨payload, rest⟩ := split
    simp only [bind, Except.bind, Header.readPayload]
    obtain _ | ⟨byte, _ | ⟨next, payload⟩⟩ := payload
    · rfl
    · rw [Item.ofPayload]
      dsimp only
      by_cases hbyte : byte < stringOffset
      · rw [if_pos hbyte, if_pos hbyte]
      · rw [if_neg hbyte, if_neg hbyte]
    · rfl

theorem decodeItem_shortList (levels : Nat) {code : Nat} (hcode : code < shortLimit)
    (input : Bytes) :
    decodeItem (levels + 1) (Kind.list.first code :: input) =
      (Header.mk .list code).readItem (decodeItem levels) input := by
  have hstart := Header.length_encode_short ⟨.list, code⟩ hcode
  rw [shortLimit] at hcode
  have hclass := Kind.list.first_lt_iff (show code < 64 by omega)
  have hlength : (Kind.list.first code - 0xc0).toNat = 192 + code - 192 :=
    Kind.list.toNat_first_sub (by omega) (show 192 ≤ 192 + code by omega)
  rw [decodeItem, if_neg (mt (hclass 0x80).mp (show ¬192 + code < 128 by omega)),
    if_neg (mt (hclass 0xb8).mp (show ¬192 + code < 184 by omega)),
    if_neg (mt (hclass 0xc0).mp (show ¬192 + code < 192 by omega)),
    if_pos ((hclass 0xf8).mpr (show 192 + code < 248 by omega)), hlength, Nat.add_sub_cancel_left,
    Header.readItem_list, hstart]

theorem decodeItem_longString (levels : Nat) {width : Nat} (hpos : 0 < width) (hwidth : width ≤ 8)
    (input : Bytes) :
    decodeItem (levels + 1) (Kind.string.first (55 + width) :: input) = (do
      let (length, input) ← decodeLongLength width input
      (Header.mk .string length).readItem (decodeItem levels) input) := by
  have hclass := Kind.string.first_lt_iff (show 55 + width < 64 by omega)
  have hfield : (Kind.string.first (55 + width) - 0xb7).toNat = 128 + (55 + width) - 183 :=
    Kind.string.toNat_first_sub (by omega) (show 183 ≤ 128 + (55 + width) by omega)
  rw [decodeItem, if_neg (mt (hclass 0x80).mp (show ¬128 + (55 + width) < 128 by omega)),
    if_neg (mt (hclass 0xb8).mp (show ¬128 + (55 + width) < 184 by omega)),
    if_pos ((hclass 0xc0).mpr (show 128 + (55 + width) < 192 by omega)), hfield,
    show 128 + (55 + width) - 183 = width by omega]
  refine decodeLongLength_bind_congr fun length rest hlong hlength => ?_
  have hstart := Header.length_encode_long ⟨.string, length⟩ hlong
  dsimp only at hstart ⊢
  rw [Header.readItem_longString hlong, hstart, hlength]

theorem decodeItem_longList (levels : Nat) {width : Nat} (hpos : 0 < width) (hwidth : width ≤ 8)
    (input : Bytes) :
    decodeItem (levels + 1) (Kind.list.first (55 + width) :: input) = (do
      let (length, input) ← decodeLongLength width input
      (Header.mk .list length).readItem (decodeItem levels) input) := by
  have hclass := Kind.list.first_lt_iff (show 55 + width < 64 by omega)
  have hfield : (Kind.list.first (55 + width) - 0xf7).toNat = 192 + (55 + width) - 247 :=
    Kind.list.toNat_first_sub (by omega) (show 247 ≤ 192 + (55 + width) by omega)
  rw [decodeItem, if_neg (mt (hclass 0x80).mp (show ¬192 + (55 + width) < 128 by omega)),
    if_neg (mt (hclass 0xb8).mp (show ¬192 + (55 + width) < 184 by omega)),
    if_neg (mt (hclass 0xc0).mp (show ¬192 + (55 + width) < 192 by omega)),
    if_neg (mt (hclass 0xf8).mp (show ¬192 + (55 + width) < 248 by omega)), hfield,
    show 192 + (55 + width) - 247 = width by omega]
  refine decodeLongLength_bind_congr fun length rest hlong hlength => ?_
  have hstart := Header.length_encode_long ⟨.list, length⟩ hlong
  dsimp only at hstart ⊢
  rw [Header.readItem_list, hstart, hlength]

/-- An item that is not one small byte is read in two steps: its header, and what stands behind. -/
theorem decodeItem_header (levels : Nat) {byte : UInt8} (hbyte : 0x80 ≤ byte) (input : Bytes) :
    decodeItem (levels + 1) (byte :: input) = (do
      let (header, input) ← Header.read byte input
      header.readItem (decodeItem levels) input) := by
  have hcode := Kind.codeOf_lt byte
  have hfirst := (Kind.eq_first_iff hbyte hcode).mpr ⟨rfl, rfl⟩
  rw [Header.read]
  generalize Kind.codeOf byte = code at hcode hfirst ⊢
  generalize Kind.ofFirst byte = kind at hfirst ⊢
  subst hfirst
  by_cases hshort : code < shortLimit
  · rw [if_pos hshort]
    cases kind with
    | string => exact decodeItem_shortString levels hshort input
    | list => exact decodeItem_shortList levels hshort input
  · rw [if_neg hshort]
    rw [shortLimit] at hshort
    obtain ⟨width, rfl⟩ : ∃ width, code = 55 + width := ⟨code - 55, by omega⟩
    rw [Nat.add_sub_cancel_left]
    have hlong : decodeItem (levels + 1) (kind.first (55 + width) :: input) = (do
        let (length, input) ← decodeLongLength width input
        (Header.mk kind length).readItem (decodeItem levels) input) := by
      cases kind with
      | string => exact decodeItem_longString levels (by omega) (by omega) input
      | list => exact decodeItem_longList levels (by omega) (by omega) input
    rw [hlong]
    cases decodeLongLength width input <;> rfl

theorem Header.readItem_eq_ok_iff {header : Header} {read : Bytes → Except Error (Item × Bytes)}
    {input rest : Bytes} {item : Item} :
    header.readItem read input = .ok (item, rest) ↔
      ∃ payload, header.encode.length + header.length < lengthBound ∧
        payload.length = header.length ∧ input = payload ++ rest ∧
        header.readPayload read payload = .ok item := by
  rw [readItem]
  simp only [bind_eq_ok]
  constructor
  · rintro ⟨⟨payload, rest'⟩, hsplit, item', hitem, hpair⟩
    cases hpair
    obtain ⟨hbound, hlength, hinput⟩ := splitPayload_eq_ok_iff.mp hsplit
    exact ⟨payload, hbound, hlength, hinput, hitem⟩
  · rintro ⟨payload, hbound, hlength, hinput, hitem⟩
    exact ⟨(payload, rest), splitPayload_eq_ok_iff.mpr ⟨hbound, hlength, hinput⟩, item, hitem, rfl⟩

/-- What stands behind a header is read as the header announces. -/
theorem decodeItem_encode_append (levels : Nat) {header : Header}
    (hbound : header.length < lengthBound) (input : Bytes) :
    decodeItem (levels + 1) (header.encode ++ input) =
      header.readItem (decodeItem levels) input := by
  obtain ⟨byte, field, hfield⟩ := List.exists_cons_of_ne_nil header.encode_ne_nil
  have hcons : byte :: (field ++ input) = header.encode ++ input := by
    rw [hfield, List.cons_append]
  have hbyte := Header.le_of_encode hbound hcons
  have hread := (Header.read_eq_ok_iff hbyte).mpr ⟨hbound, hcons⟩
  rw [← hcons, decodeItem_header levels hbyte, hread]
  rfl

/-- A payload behind its header is read whatever follows it. -/
theorem decodeItem_framed (levels : Nat) {header : Header} {payload : Bytes}
    (hlength : payload.length = header.length)
    (hbound : header.encode.length + header.length < lengthBound) (rest : Bytes) :
    decodeItem (levels + 1) (header.encode ++ (payload ++ rest)) =
      (header.readPayload (decodeItem levels) payload).map fun item => (item, rest) := by
  have hsplit : splitPayload header.encode.length header.length (payload ++ rest) =
      .ok (payload, rest) := splitPayload_eq_ok_iff.mpr ⟨hbound, hlength, rfl⟩
  rw [decodeItem_encode_append levels (by omega), Header.readItem, hsplit]
  simp only [bind, Except.bind]
  cases header.readPayload (decodeItem levels) payload <;> rfl

/-- An item that is read is one small byte, or a payload behind its header. -/
theorem decodeItem_eq_ok {levels : Nat} {input rest : Bytes} {item : Item}
    (h : decodeItem (levels + 1) input = .ok (item, rest)) :
    (∃ byte < 0x80, input = byte :: rest ∧ item = .bytes [byte]) ∨
      ∃ (header : Header) (payload : Bytes), payload.length = header.length ∧
        header.encode.length + header.length < lengthBound ∧
        input = header.encode ++ (payload ++ rest) ∧
        header.readPayload (decodeItem levels) payload = .ok item := by
  cases input with
  | nil => cases h
  | cons byte input =>
    by_cases hbyte : byte < 0x80
    · rw [decodeItem_small levels hbyte] at h
      cases h
      exact .inl ⟨byte, hbyte, rfl, rfl⟩
    · replace hbyte := UInt8.not_lt.mp hbyte
      rw [decodeItem_header levels hbyte] at h
      obtain ⟨⟨header, input'⟩, hread, hitem⟩ := bind_eq_ok.mp h
      obtain ⟨-, hinput⟩ := (Header.read_eq_ok_iff hbyte).mp hread
      obtain ⟨payload, hbound, hlength, rfl, hpayload⟩ := Header.readItem_eq_ok_iff.mp hitem
      exact .inr ⟨header, payload, hlength, hbound, hinput, hpayload⟩

end HybridTx.Rlp
