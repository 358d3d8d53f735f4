import HybridTx.Proofs.Rlp.Extent

/-! Inputs with more bytes behind them. A reader that has what it needs pays no attention to them,
so they change nothing but what is left over, unless the input alone is too short. -/

namespace HybridTx.Rlp

/-- The input ended where more bytes were needed. -/
def Error.IsShortage (e : Error) : Prop := e = .emptyInput ∨ e = .unexpectedEnd

/-- What a reader makes of an input, and what it makes of the same input with `extra` behind it: the
same value, with `extra` left over as well, or the same fault. Only where the input alone is too
short may `extra` lead to anything else. -/
inductive Extends (extra : Bytes) {α : Type} :
    Except Error (α × Bytes) → Except Error (α × Bytes) → Prop
  | ok (a : α) (rest : Bytes) : Extends extra (.ok (a, rest)) (.ok (a, rest ++ extra))
  | error (e : Error) : Extends extra (.error e) (.error e)
  | shortage {e : Error} (h : e.IsShortage) (outcome : Except Error (α × Bytes)) :
    Extends extra (.error e) outcome

variable {α β : Type} {extra : Bytes}

theorem Extends.eq_ok {alone extended : Except Error (α × Bytes)} {a : α} {rest : Bytes}
    (h : Extends extra alone extended) (hok : alone = .ok (a, rest)) :
    extended = .ok (a, rest ++ extra) := by
  cases h <;> cases hok
  rfl

theorem Extends.eq_error {alone extended : Except Error (α × Bytes)} {e : Error}
    (h : Extends extra alone extended) (herror : alone = .error e) (hlong : ¬e.IsShortage) :
    extended = .error e := by
  cases h with
  | ok => cases herror
  | error => exact herror
  | shortage hshort =>
    cases herror
    exact absurd hshort hlong

/-- Readers in a row: the second goes on where the first stopped, with `extra` at the end of what
it is given. -/
theorem Extends.bind {alone extended : Except Error (α × Bytes)}
    {next : α × Bytes → Except Error (β × Bytes)} (h : Extends extra alone extended)
    (hnext : ∀ a rest, Extends extra (next (a, rest)) (next (a, rest ++ extra))) :
    Extends extra (alone >>= next) (extended >>= next) := by
  cases h with
  | ok a rest => exact hnext a rest
  | error e => exact .error e
  | shortage hshort => exact .shortage hshort _

theorem decodeLongLength_extends (width : Nat) (input extra : Bytes) :
    Extends extra (decodeLongLength width input) (decodeLongLength width (input ++ extra)) := by
  obtain hshort | hwidth := Nat.lt_or_ge input.length width
  · rw [decodeLongLength_short hshort]
    exact .shortage (.inr rfl) _
  · simp only [decodeLongLength, List.take_append_of_le_length hwidth,
      List.drop_append_of_le_length hwidth]
    split
    · exact .error _
    split
    · exact .error _
    cases (input.take width).foldlM appendLengthByte 0 with
    | error e => exact .error e
    | ok length =>
      simp only [ok_bind]
      split
      · exact .error _
      · exact .ok _ _

theorem splitPayload_extends (start length : Nat) (input extra : Bytes) :
    Extends extra (splitPayload start length input)
      (splitPayload start length (input ++ extra)) := by
  obtain hbound | hbound := Nat.lt_or_ge (start + length) lengthBound
  · obtain hshort | hlength := Nat.lt_or_ge input.length length
    · rw [splitPayload_short hbound hshort]
      exact .shortage (.inr rfl) _
    · have htake : (input.take length).length = length := List.length_take_of_le hlength
      rw [splitPayload_eq_ok_iff.mpr ⟨hbound, htake, (List.take_append_drop length input).symm⟩,
        splitPayload_eq_ok_iff.mpr ⟨hbound, htake, _⟩]
      · exact .ok _ _
      · rw [← List.append_assoc, List.take_append_drop]
  · rw [splitPayload, splitPayload, if_pos hbound, if_pos hbound]
    exact .error _

theorem Header.read_extends (byte : UInt8) (input extra : Bytes) :
    Extends extra (Header.read byte input) (Header.read byte (input ++ extra)) := by
  rw [read, read]
  split
  · exact .ok _ _
  · exact (decodeLongLength_extends _ input extra).bind fun length rest => .ok _ _

/-- The payload that a header announces is read by itself, whatever stands behind it. -/
theorem Header.readItem_extends (header : Header) (read : Bytes → Except Error (Item × Bytes))
    (input extra : Bytes) :
    Extends extra (header.readItem read input) (header.readItem read (input ++ extra)) := by
  refine (splitPayload_extends _ header.length input extra).bind fun payload rest => ?_
  dsimp only
  cases header.readPayload read payload with
  | error e => exact .error e
  | ok item => exact .ok item rest

theorem decodeItem_extends (levels : Nat) (input extra : Bytes) :
    Extends extra (decodeItem levels input) (decodeItem levels (input ++ extra)) := by
  cases levels with
  | zero => exact .error .tooDeep
  | succ levels =>
    cases input with
    | nil => exact .shortage (.inl rfl) _
    | cons byte input =>
      rw [List.cons_append]
      by_cases hbyte : byte < 0x80
      · rw [decodeItem_small levels hbyte, decodeItem_small levels hbyte]
        exact .ok _ _
      · replace hbyte := UInt8.not_lt.mp hbyte
        rw [decodeItem_header levels hbyte, decodeItem_header levels hbyte]
        exact (Header.read_extends byte input extra).bind fun header rest =>
          header.readItem_extends _ rest extra

/-- What a payload is read as does not depend on the bytes behind it. -/
theorem decode_framed_congr {header : Header} (hbound : header.length < lengthBound)
    {payload : Bytes} (hlength : payload.length = header.length) (rest other : Bytes) :
    (decode (header.encode ++ (payload ++ rest))).map Prod.fst =
      (decode (header.encode ++ (payload ++ other))).map Prod.fst := by
  have hread : ∀ behind, decode (header.encode ++ (payload ++ behind)) =
      header.readItem (decodeItem maxDepth) (payload ++ behind) :=
    fun behind => decodeItem_encode_append maxDepth hbound (payload ++ behind)
  rw [hread, hread, Header.readItem, Header.readItem]
  obtain hend | hend := Nat.lt_or_ge (header.encode.length + header.length) lengthBound
  · rw [splitPayload_eq_ok_iff.mpr ⟨hend, hlength, rfl⟩,
      splitPayload_eq_ok_iff.mpr ⟨hend, hlength, rfl⟩]
    simp only [ok_bind]
    cases header.readPayload (decodeItem maxDepth) payload <;> rfl
  · rw [splitPayload, splitPayload, if_pos hend, if_pos hend]

/-- More input helps only against a lack of input. An encoding that is cut short, however deep the
value is nested, is refused as empty or as ended too soon; what is read is read with more bytes
behind it, which are left over, and any other fault stays. -/
theorem more_input_cures_shortage_only :
    (∀ (tree : Item) (cut : Bytes), tree.encode.length < lengthBound → cut <+: tree.encode →
      cut ≠ tree.encode →
      decode cut = .error (if cut = [] then .emptyInput else .unexpectedEnd)) ∧
    (∀ input extra item rest, decode input = .ok (item, rest) →
      decode (input ++ extra) = .ok (item, rest ++ extra)) ∧
    (∀ input extra e, decode input = .error e → e ≠ .emptyInput → e ≠ .unexpectedEnd →
      decode (input ++ extra) = .error e) ∧
    ∀ (header : Header) (payload rest other : Bytes), header.length < lengthBound →
      payload.length = header.length →
      (decode (header.encode ++ (payload ++ rest))).map Prod.fst =
        (decode (header.encode ++ (payload ++ other))).map Prod.fst := by
  refine ⟨?_, ?_, ?_, ?_⟩
  · rintro tree cut hlength ⟨rest, hcut⟩ hproper
    refine decode_cut hlength hcut ?_
    rintro rfl
    rw [List.append_nil] at hcut
    exact hproper hcut
  · intro input extra item rest hdecode
    exact (decodeItem_extends _ input extra).eq_ok hdecode
  · intro input extra e hdecode hempty hend
    exact (decodeItem_extends _ input extra).eq_error hdecode (not_or.mpr ⟨hempty, hend⟩)
  · intro header payload rest other hbound hlength
    exact decode_framed_congr hbound hlength rest other

/-- Of an empty string inside 20 lists the last byte is missing, which shows before the depth does.
A list keeps its value, and the fault inside it, when a byte is added; and a string that ends too
soon inside its list is not filled up from behind the list. -/
theorem more_input_cures_shortage_only_nested :
    let tree := Nat.repeat (fun item => Item.list [item]) 20 (.bytes [])
    tree.encode.length < lengthBound ∧ decode (tree.encode.take 20) = .error .unexpectedEnd ∧
      decode [0xc1, 0x80] = .ok (.list [.bytes []], []) ∧
      decode ([0xc1, 0x80] ++ [0xff]) = .ok (.list [.bytes []], [0xff]) ∧
      decode [0xc2, 0x81, 0x05] = .error .wrappedByte ∧
      decode ([0xc2, 0x81, 0x05] ++ [0xff]) = .error .wrappedByte ∧
      (decode ([0xc2] ++ ([0x82, 0x01] ++ [0x02]))).map Prod.fst = .error .unexpectedEnd := by
  intro tree
  obtain ⟨hcut, hread, hfault, hframed⟩ := more_input_cures_shortage_only
  have hlength : tree.encode.length < lengthBound := by decide +kernel
  have hlist : decode [0xc1, 0x80] = .ok (.list [.bytes []], []) := rfl
  have hwrapped : decode [0xc2, 0x81, 0x05] = .error .wrappedByte := rfl
  refine ⟨hlength, ?_, hlist, hread _ [0xff] _ _ hlist, hwrapped,
    hfault _ [0xff] _ hwrapped (by decide) (by decide), ?_⟩
  · rw [hcut tree (tree.encode.take 20) hlength (List.take_prefix 20 _) (by decide +kernel),
      if_neg (by decide +kernel)]
  · exact hframed ⟨.list, 2⟩ [0x82, 0x01] [0x02] [] (by decide) rfl

end HybridTx.Rlp
