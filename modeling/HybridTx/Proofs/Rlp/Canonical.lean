import HybridTx.Proofs.Rlp.RoundTrip

/-! The decoder accepts encodings and nothing else, so a value has one accepted encoding. -/

namespace HybridTx.Rlp

/-- `read` reads nothing but encodings, of values with fewer than `levels` lists around any value
inside them. -/
def ReadsEncodings (levels : Nat) (read : Bytes → Except Error (Item × Bytes)) : Prop :=
  ∀ input item rest, read input = .ok (item, rest) →
    item.depth < levels ∧ input = item.encode ++ rest

theorem ReadsEncodings.length_lt {levels : Nat} {read : Bytes → Except Error (Item × Bytes)}
    (hread : ReadsEncodings levels read) {input rest : Bytes} {item : Item}
    (h : read input = .ok (item, rest)) : rest.length < input.length := by
  obtain ⟨-, rfl⟩ := hread input item rest h
  have hpos := List.length_pos_iff.mpr item.encode_ne_nil
  rw [List.length_append]
  omega

/-- Items that are read one after another from an input, by a reader of encodings, make up the
input. -/
theorem readItems_eq_ok {read : Bytes → Except Error (Item × Bytes)} {levels : Nat}
    (hread : ReadsEncodings levels read) {bound : Nat} {before items : List Item} {input : Bytes}
    (h : readItems read bound before input = .ok items) :
    ∃ after, items = before.reverse ++ after ∧ Item.depthAll after ≤ levels ∧
      input = (Item.encodeAll after).flatten := by
  induction bound generalizing before input with
  | zero =>
    cases input with
    | nil =>
      cases h
      exact ⟨[], by simp, Nat.zero_le _, rfl⟩
    | cons byte input => cases h
  | succ bound ih =>
    by_cases hempty : input = []
    · subst hempty
      cases h
      exact ⟨[], by simp, Nat.zero_le _, rfl⟩
    · rw [readItems_succ read bound before hempty] at h
      obtain ⟨⟨item, rest⟩, hitem, hrest⟩ := bind_eq_ok.mp h
      obtain ⟨hdepth, rfl⟩ := hread input item rest hitem
      obtain ⟨after, rfl, hafter, rfl⟩ := ih hrest
      refine ⟨item :: after, by simp, ?_, by rw [Item.encodeAll, List.flatten_cons]⟩
      rw [Item.depthAll]
      omega

/-- A list is refused for the first of its items that is refused. -/
theorem readItems_eq_error {read : Bytes → Except Error (Item × Bytes)} {levels : Nat}
    (hread : ReadsEncodings levels read) {bound : Nat} {before : List Item} {input : Bytes}
    {e : Error} (hbound : input.length ≤ bound) (h : readItems read bound before input = .error e) :
    ∃ items behind, Item.depthAll items ≤ levels ∧
      input = (Item.encodeAll items).flatten ++ behind ∧ read behind = .error e := by
  induction bound generalizing before input with
  | zero =>
    obtain rfl := List.length_eq_zero_iff.mp (Nat.le_zero.mp hbound)
    cases h
  | succ bound ih =>
    by_cases hempty : input = []
    · subst hempty
      cases h
    · rw [readItems_succ read bound before hempty, bind_eq_error] at h
      obtain herror | ⟨⟨item, rest⟩, hitem, hrest⟩ := h
      · exact ⟨[], input, Nat.zero_le _, rfl, herror⟩
      · have hshorter := hread.length_lt hitem
        obtain ⟨hdepth, rfl⟩ := hread input item rest hitem
        obtain ⟨items, behind, hitems, rfl, hbehind⟩ := ih (by omega) hrest
        refine ⟨item :: items, behind, ?_, ?_, hbehind⟩
        · rw [Item.depthAll]
          omega
        · rw [Item.encodeAll, List.flatten_cons, List.append_assoc]

/-- A payload that a reader accepts behind a header makes up, with the header, the encoding of the
value. -/
theorem encode_of_readPayload {levels : Nat} {read : Bytes → Except Error (Item × Bytes)}
    (hread : ReadsEncodings levels read) {kind : Kind} {payload : Bytes} {item : Item}
    (h : (Header.mk kind payload.length).readPayload read payload = .ok item) :
    item.depth < levels + 1 ∧
      item.encode = (Header.mk kind payload.length).encode ++ payload := by
  cases kind with
  | string =>
    change Item.ofPayload payload = .ok item at h
    obtain ⟨byte, hbyte, rfl, -⟩ | ⟨hpayload, hencode⟩ := Item.encode_bytes payload
    · rw [Item.ofPayload, stringOffset, if_pos hbyte] at h
      cases h
    · rw [hpayload] at h
      cases h
      exact ⟨by rw [Item.depth]; omega, hencode⟩
  | list =>
    obtain ⟨items, hitems, rfl⟩ := map_eq_ok.mp h
    obtain ⟨after, hafter, hdepth, rfl⟩ := readItems_eq_ok hread hitems
    obtain rfl : items = after := hafter
    exact ⟨by rw [Item.depth]; omega, Item.encode_list items⟩

/-- What a reader of `levels` levels accepts is the encoding of a value that is not nested deeper,
short enough for a byte string in memory. -/
theorem encode_of_decodeItem {levels : Nat} {input rest : Bytes} {item : Item}
    (h : decodeItem levels input = .ok (item, rest)) :
    item.depth < levels ∧ item.encode.length < lengthBound ∧ input = item.encode ++ rest := by
  induction levels generalizing input item rest with
  | zero => cases h
  | succ levels ih =>
    obtain ⟨byte, hbyte, rfl, rfl⟩ | ⟨⟨kind, length⟩, payload, hlength, hbound, rfl, hpayload⟩ :=
      decodeItem_eq_ok h
    · have hencode : (Item.bytes [byte]).encode = [byte] := by
        rw [Item.encode, encodeBytes, stringOffset, if_pos hbyte]
      have hone : 1 < lengthBound := by decide
      rw [hencode]
      exact ⟨Nat.succ_pos _, hone, rfl⟩
    · obtain rfl : payload.length = length := hlength
      have hread : ReadsEncodings levels (decodeItem levels) := by
        intro input item rest hitem
        obtain ⟨hdepth, -, hinput⟩ := ih hitem
        exact ⟨hdepth, hinput⟩
      obtain ⟨hdepth, hencode⟩ := encode_of_readPayload hread hpayload
      rw [hencode, List.length_append, List.append_assoc]
      exact ⟨hdepth, hbound, rfl⟩

theorem readsEncodings_decodeItem (levels : Nat) : ReadsEncodings levels (decodeItem levels) := by
  intro input item rest h
  obtain ⟨hdepth, -, hinput⟩ := encode_of_decodeItem h
  exact ⟨hdepth, hinput⟩

theorem decode_eq_ok_iff {input rest : Bytes} {item : Item} :
    decode input = .ok (item, rest) ↔
      item.depth ≤ maxDepth ∧ item.encode.length < lengthBound ∧ input = item.encode ++ rest := by
  constructor
  · intro h
    obtain ⟨hdepth, hlength, hinput⟩ := encode_of_decodeItem h
    exact ⟨Nat.le_of_lt_succ hdepth, hlength, hinput⟩
  · rintro ⟨hdepth, hlength, rfl⟩
    rw [decode_encode item hlength, if_pos hdepth]

theorem decodeExact_eq_ok_iff {input : Bytes} {item : Item} :
    decodeExact input = .ok item ↔
      item.depth ≤ maxDepth ∧ input.length < lengthBound ∧ input = item.encode := by
  constructor
  · intro h
    obtain ⟨⟨item', rest⟩, hdecode, hrest⟩ := bind_eq_ok.mp h
    obtain ⟨hdepth, hlength, rfl⟩ := decode_eq_ok_iff.mp hdecode
    dsimp only at hrest
    split at hrest
    · next hempty =>
      cases hrest
      rw [List.isEmpty_iff.mp hempty, List.append_nil]
      exact ⟨hdepth, hlength, rfl⟩
    · cases hrest
  · rintro ⟨hdepth, hlength, rfl⟩
    rw [decodeExact_encode item hlength, if_pos hdepth]

/-- An input is accepted exactly when it starts with an encoding, of a value with at most `maxDepth`
lists around any value inside it; so two inputs that are read as the same value are the same. -/
theorem accepted_iff_encoding :
    (∀ input item rest, decode input = .ok (item, rest) ↔
      input = item.encode ++ rest ∧ item.encode.length < lengthBound ∧
        ∀ levels inner, item.Inside levels inner → levels ≤ maxDepth) ∧
    ∀ first second item, decodeExact first = .ok item → decodeExact second = .ok item →
      first = second := by
  constructor
  · intro input item rest
    rw [decode_eq_ok_iff, Item.depth_le_iff]
    constructor
    · rintro ⟨hdepth, hlength, hinput⟩
      exact ⟨hinput, hlength, hdepth⟩
    · rintro ⟨hinput, hlength, hdepth⟩
      exact ⟨hdepth, hlength, hinput⟩
  · intro first second item hfirst hsecond
    rw [(decodeExact_eq_ok_iff.mp hfirst).2.2, (decodeExact_eq_ok_iff.mp hsecond).2.2]

/-- A list of a long byte string and an empty list, with a byte behind it. -/
theorem accepted_iff_encoding_long :
    let string := List.replicate 56 (0xaa : UInt8)
    let list := Item.list [.bytes string, .list []]
    let bytes := [0xf8, 0x3b, 0xb8, 0x38] ++ string ++ [0xc0]
    decode (bytes ++ [0xff]) = .ok (list, [0xff]) ∧ bytes ++ [0xff] = list.encode ++ [0xff] ∧
      decodeExact bytes = .ok list ∧ bytes = list.encode := by
  intro string list bytes
  have hdecode : decode (bytes ++ [0xff]) = .ok (list, [0xff]) := rfl
  have hexact : decodeExact bytes = .ok list := rfl
  have hencode : decodeExact list.encode = .ok list :=
    decodeExact_eq_ok_iff.mpr ⟨by decide, by decide +kernel, rfl⟩
  exact ⟨hdecode, ((accepted_iff_encoding.1 _ _ _).mp hdecode).1, hexact,
    accepted_iff_encoding.2 bytes list.encode list hexact hencode⟩

end HybridTx.Rlp
