import HybridTx.Proofs.Rlp.Framing
import HybridTx.Proofs.Rlp.Nesting

/-! What the encoder writes, the decoder reads back, whatever follows it, unless it is nested too
deep. -/

namespace HybridTx.Rlp

namespace Item

/-- A list is a header in front of its encoded items. -/
theorem encode_list (items : List Item) :
    (Item.list items).encode =
      (Header.mk .list (encodeAll items).flatten.length).encode ++ (encodeAll items).flatten := by
  rw [encode, encodeList]
  rfl

/-- A byte string is one small byte, or a header in front of its payload. -/
theorem encode_bytes (payload : Bytes) :
    (∃ byte < 0x80, payload = [byte] ∧ (Item.bytes payload).encode = [byte]) ∨
      ofPayload payload = .ok (.bytes payload) ∧
        (Item.bytes payload).encode = (Header.mk .string payload.length).encode ++ payload := by
  match payload with
  | [] | _ :: _ :: _ => exact .inr ⟨rfl, rfl⟩
  | [byte] =>
    by_cases hbyte : byte < 0x80
    · exact .inl ⟨byte, hbyte, rfl, by rw [encode, encodeBytes, stringOffset, if_pos hbyte]⟩
    · refine .inr ⟨?_, ?_⟩
      · rw [ofPayload, stringOffset, if_neg hbyte]
      · rw [encode, encodeBytes, stringOffset, if_neg hbyte]
        rfl

theorem encode_ne_nil (item : Item) : item.encode ≠ [] := by
  cases item with
  | bytes payload =>
    obtain ⟨byte, -, -, hencode⟩ | ⟨-, hencode⟩ := encode_bytes payload
    · simp [hencode]
    · simp [hencode, Header.encode_ne_nil]
  | list items => simp [encode_list, Header.encode_ne_nil]

theorem length_encode_le_flatten {items : List Item} {item : Item} (h : item ∈ items) :
    item.encode.length ≤ (encodeAll items).flatten.length := by
  rw [encodeAll_eq_map]
  exact (List.sublist_flatten_of_mem (List.mem_map_of_mem h)).length_le

theorem length_le_flatten (items : List Item) :
    items.length ≤ (encodeAll items).flatten.length := by
  induction items with
  | nil => exact Nat.le_refl _
  | cons item items ih =>
    have hpos := List.length_pos_iff.mpr item.encode_ne_nil
    rw [encodeAll, List.flatten_cons, List.length_append, List.length_cons]
    omega

end Item

theorem readItems_succ (read : Bytes → Except Error (Item × Bytes)) (bound : Nat)
    (items : List Item) {input : Bytes} (h : input ≠ []) :
    readItems read (bound + 1) items input =
      (do
        let (item, rest) ← read input
        readItems read bound (item :: items) rest) := by
  obtain ⟨byte, input, rfl⟩ := List.exists_cons_of_ne_nil h
  rw [readItems]
  cases read (byte :: input) <;> rfl

/-- The items of a list are read back in order when a reader of one item reads each of them; the
first one that is nested too deep ends the reading. -/
theorem readItems_encodeAll {read : Bytes → Except Error (Item × Bytes)} {levels : Nat}
    {items : List Item}
    (hread : ∀ item ∈ items, ∀ rest,
      read (item.encode ++ rest) =
        if item.depth < levels then .ok (item, rest) else .error .tooDeep)
    {bound : Nat} (hbound : (Item.encodeAll items).flatten.length ≤ bound) (before : List Item) :
    readItems read bound before (Item.encodeAll items).flatten =
      if Item.depthAll items ≤ levels then .ok (before.reverse ++ items)
      else .error .tooDeep := by
  induction items generalizing bound before with
  | nil => simp [Item.encodeAll, Item.depthAll, readItems]
  | cons item items ih =>
    have hpos := List.length_pos_iff.mpr item.encode_ne_nil
    rw [Item.encodeAll, List.flatten_cons, List.length_append] at hbound
    obtain ⟨bound, rfl⟩ : ∃ bound', bound = bound' + 1 := ⟨bound - 1, by omega⟩
    rw [Item.encodeAll, List.flatten_cons, readItems_succ _ _ _ (by simp [item.encode_ne_nil]),
      hread item List.mem_cons_self]
    by_cases hdepth : item.depth < levels
    · rw [if_pos hdepth]
      simp only [bind, Except.bind]
      rw [ih (fun other hmem => hread other (List.mem_cons_of_mem item hmem)) (by omega)]
      simp [Item.depthAll, Nat.succ_le_of_lt hdepth]
    · rw [if_neg hdepth, if_neg (by rw [Item.depthAll]; omega)]
      rfl

theorem readItems_append {read : Bytes → Except Error (Item × Bytes)} {items : List Item}
    (hread : ∀ item ∈ items, ∀ rest, read (item.encode ++ rest) = .ok (item, rest))
    (bound : Nat) (before : List Item) (rest : Bytes) :
    readItems read (bound + items.length) before ((Item.encodeAll items).flatten ++ rest) =
      readItems read bound (items.reverse ++ before) rest := by
  induction items generalizing before with
  | nil => rfl
  | cons item items ih =>
    have hitems : ∀ other ∈ items, ∀ rest, read (other.encode ++ rest) = .ok (other, rest) :=
      fun other hmem => hread other (List.mem_cons_of_mem item hmem)
    rw [Item.encodeAll, List.flatten_cons, List.append_assoc, List.length_cons, ← Nat.add_assoc,
      readItems_succ _ _ _ (by simp [item.encode_ne_nil]), hread item List.mem_cons_self, ok_bind]
    dsimp only
    rw [ih hitems, List.reverse_cons, List.append_assoc]
    rfl

/-- What a reader of `levels` levels makes of an encoding: the value, unless it is nested deeper. -/
theorem decodeItem_encode (levels : Nat) (item : Item) (hlength : item.encode.length < lengthBound)
    (rest : Bytes) :
    decodeItem levels (item.encode ++ rest) =
      if item.depth < levels then .ok (item, rest) else .error .tooDeep := by
  -- By induction on the levels and not on the value: the items of a list are read with one level
  -- less, so the hypothesis speaks of all of them.
  induction levels generalizing item rest with
  | zero => rfl
  | succ levels ih =>
    cases item with
    | bytes payload =>
      rw [if_pos (by rw [Item.depth]; omega)]
      obtain ⟨byte, hbyte, rfl, hencode⟩ | ⟨hpayload, hencode⟩ := Item.encode_bytes payload
      · rw [hencode, List.singleton_append, decodeItem_small levels hbyte]
      · rw [hencode, List.length_append] at hlength
        rw [hencode, List.append_assoc, decodeItem_framed levels rfl hlength, Header.readPayload]
        dsimp only
        rw [hpayload]
        rfl
    | list items =>
      rw [Item.encode_list, List.length_append] at hlength
      have hread : ∀ item ∈ items, ∀ rest, decodeItem levels (item.encode ++ rest) =
          if item.depth < levels then .ok (item, rest) else .error .tooDeep := by
        intro item hmem rest
        have hle := Item.length_encode_le_flatten hmem
        exact ih item (by omega) rest
      rw [Item.encode_list, List.append_assoc, decodeItem_framed levels rfl hlength,
        Header.readPayload]
      dsimp only
      rw [readItems_encodeAll hread le_rfl, Item.depth]
      simp only [Nat.lt_succ_iff]
      split <;> rfl

theorem decode_encode (item : Item) (hlength : item.encode.length < lengthBound) (rest : Bytes) :
    decode (item.encode ++ rest) =
      if item.depth ≤ maxDepth then .ok (item, rest) else .error .tooDeep := by
  rw [decode, decodeItem_encode _ item hlength]
  simp only [Nat.lt_succ_iff]

theorem decodeExact_encode (item : Item) (hlength : item.encode.length < lengthBound) :
    decodeExact item.encode =
      if item.depth ≤ maxDepth then .ok item else .error .tooDeep := by
  have hdecode := decode_encode item hlength []
  rw [List.append_nil] at hdecode
  rw [decodeExact, hdecode]
  split <;> rfl

/-- Reading undoes writing, whatever follows, for values with at most `maxDepth` lists around any
value inside them, and refuses all others as too deep. -/
theorem reading_undoes_writing (tree : Item) (rest : Bytes)
    (hlength : (tree.encode ++ rest).length < lengthBound) :
    ((∀ levels inner, tree.Inside levels inner → levels ≤ maxDepth) →
      decode (tree.encode ++ rest) = .ok (tree, rest) ∧ decodeExact tree.encode = .ok tree) ∧
    ((∃ levels inner, tree.Inside levels inner ∧ maxDepth < levels) →
      decode (tree.encode ++ rest) = .error .tooDeep ∧
        decodeExact tree.encode = .error .tooDeep) := by
  rw [List.length_append] at hlength
  have hshort : tree.encode.length < lengthBound := by omega
  rw [decode_encode tree hshort, decodeExact_encode tree hshort]
  constructor
  · intro hinside
    rw [if_pos (Item.depth_le_iff.mpr hinside), if_pos (Item.depth_le_iff.mpr hinside)]
    exact ⟨rfl, rfl⟩
  · rintro ⟨levels, inner, hinner, hdeep⟩
    have hdepth : ¬tree.depth ≤ maxDepth := by
      have := hinner.le_depth
      omega
    rw [if_neg hdepth, if_neg hdepth]
    exact ⟨rfl, rfl⟩

/-- An empty list inside 16 lists is read back, and an empty byte string inside 17 is not. -/
theorem reading_undoes_writing_limit :
    let shallow := Nat.repeat (fun item => Item.list [item]) 16 (.list [])
    let deep := Nat.repeat (fun item => Item.list [item]) 17 (.bytes [])
    (shallow.encode ++ [0xff]).length < lengthBound ∧ (deep.encode ++ [0xff]).length < lengthBound ∧
      decode (shallow.encode ++ [0xff]) = .ok (shallow, [0xff]) ∧
      decodeExact deep.encode = .error .tooDeep := by
  intro shallow deep
  have hshallow : (shallow.encode ++ [0xff]).length < lengthBound := by decide
  have hdeep : (deep.encode ++ [0xff]).length < lengthBound := by decide
  have hinside : ∀ levels inner, shallow.Inside levels inner → levels ≤ maxDepth :=
    Item.depth_le_iff.mp (by decide)
  have hbeyond : ∃ levels inner, deep.Inside levels inner ∧ maxDepth < levels := by
    obtain ⟨inner, hinner⟩ := Item.exists_inside_depth 17 deep (by decide)
    exact ⟨17, inner, hinner, by decide⟩
  exact ⟨hshallow, hdeep, ((reading_undoes_writing shallow [0xff] hshallow).1 hinside).1,
    ((reading_undoes_writing deep [0xff] hdeep).2 hbeyond).2⟩

end HybridTx.Rlp
