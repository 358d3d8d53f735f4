import HybridTx.Proofs.Rlp.Positional
import Mathlib.Data.Set.Function

/-! The numbers of headers. Each length below 2⁶⁴ has one header of each kind, no sum in writing or
reading one passes its width, and the reading of an item overflows just where it comes to a header
with a payload that would end past the last number of a word. -/

namespace HybridTx.Rlp

/-- `Meets levels input header`: reading an item from the front of `input`, with `levels` levels of
nesting left, comes to `header`. It stands in front, or in the payload of a list, behind items that
are not nested too deep. -/
inductive Meets : Nat → Bytes → Header → Prop
  | front {levels : Nat} {header : Header} (rest : Bytes) :
    header.length < lengthBound → Meets (levels + 1) (header.encode ++ rest) header
  | inside {levels length : Nat} {items : List Item} {behind : Bytes} {header : Header}
      (rest : Bytes) :
    Item.depthAll items ≤ levels → ((Item.encodeAll items).flatten ++ behind).length = length →
      (Header.mk .list length).encode.length + length < lengthBound → Meets levels behind header →
      Meets (levels + 1)
        ((Header.mk .list length).encode ++ ((Item.encodeAll items).flatten ++ behind ++ rest))
        header

theorem Meets.ne_nil {levels : Nat} {input : Bytes} {header : Header}
    (h : Meets levels input header) : input ≠ [] := by
  cases h with
  | front => simp [Header.encode_ne_nil]
  | inside => simp [Header.encode_ne_nil]

/-- The end of the payload that a header announces is no number of a word. -/
def Header.Overflows (header : Header) : Prop :=
  lengthBound ≤ header.encode.length + header.length

theorem decodeItem_of_inside {levels length : Nat} {items : List Item} {behind : Bytes} {e : Error}
    (rest : Bytes) (hdepth : Item.depthAll items ≤ levels)
    (hlength : ((Item.encodeAll items).flatten ++ behind).length = length)
    (hbound : (Header.mk .list length).encode.length + length < lengthBound)
    (hbehind : behind ≠ []) (h : decodeItem levels behind = .error e) :
    decodeItem (levels + 1)
      ((Header.mk .list length).encode ++ ((Item.encodeAll items).flatten ++ behind ++ rest)) =
        .error e := by
  have hitems : ∀ item ∈ items, ∀ rest,
      decodeItem levels (item.encode ++ rest) = .ok (item, rest) := by
    intro item hmem rest
    have hle := Item.length_encode_le_flatten hmem
    rw [List.length_append] at hlength
    rw [decodeItem_encode levels item (by omega), if_pos (Item.depthAll_le_iff.mp hdepth item hmem)]
  obtain ⟨bound, hrounds⟩ : ∃ bound, length = bound + 1 + items.length := by
    have hcount := Item.length_le_flatten items
    have hpos := List.length_pos_iff.mpr hbehind
    rw [List.length_append] at hlength
    exact ⟨length - 1 - items.length, by omega⟩
  have hread : readItems (decodeItem levels) length [] ((Item.encodeAll items).flatten ++ behind) =
      .error e := by
    rw [hrounds, readItems_append hitems, readItems_succ _ _ _ hbehind, h]
    rfl
  rw [decodeItem_framed levels hlength hbound, Header.readPayload]
  dsimp only
  rw [hread]
  rfl

theorem Item.ofPayload_ne_lengthOverflow (payload : Bytes) :
    Item.ofPayload payload ≠ .error .lengthOverflow := by
  intro h
  unfold ofPayload at h
  split at h
  · split at h <;> cases h
  · cases h

theorem decodeItem_of_meets {levels : Nat} {input : Bytes} {header : Header}
    (h : Meets levels input header) (hend : header.Overflows) :
    decodeItem levels input = .error .lengthOverflow := by
  induction h with
  | front rest hbound =>
    rw [decodeItem_encode_append _ hbound, Header.readItem,
      splitPayload_eq_lengthOverflow.mpr hend]
    rfl
  | inside rest hdepth hlength hbound hmeets ih =>
    refine decodeItem_of_inside rest hdepth hlength hbound ?_ (ih hend)
    rintro rfl
    exact hmeets.ne_nil rfl

theorem Header.readItem_eq_lengthOverflow {levels : Nat}
    {read : Bytes → Except Error (Item × Bytes)} (hread : ReadsEncodings levels read)
    {header : Header} {input : Bytes} (h : header.readItem read input = .error .lengthOverflow) :
    header.Overflows ∨ ∃ items behind rest, header.kind = .list ∧
      header.encode.length + header.length < lengthBound ∧ Item.depthAll items ≤ levels ∧
      ((Item.encodeAll items).flatten ++ behind).length = header.length ∧
      input = (Item.encodeAll items).flatten ++ behind ++ rest ∧
      read behind = .error .lengthOverflow := by
  rw [readItem, bind_eq_error] at h
  obtain hend | ⟨⟨payload, rest⟩, hsplit, hitem⟩ := h
  · exact .inl (splitPayload_eq_lengthOverflow.mp hend)
  obtain ⟨hend, hlength, rfl⟩ := splitPayload_eq_ok_iff.mp hsplit
  rw [bind_eq_error] at hitem
  obtain hpayload | ⟨item, -, hnone⟩ := hitem
  · obtain ⟨kind, length⟩ := header
    cases kind with
    | string => exact absurd hpayload (Item.ofPayload_ne_lengthOverflow payload)
    | list =>
      obtain ⟨items, behind, hdepth, rfl, hbehind⟩ :=
        readItems_eq_error hread (le_of_eq hlength) (map_eq_error.mp hpayload)
      exact .inr ⟨items, behind, rest, rfl, hend, hdepth, hlength, rfl, hbehind⟩
  · cases hnone

theorem meets_of_decodeItem {levels : Nat} {input : Bytes}
    (h : decodeItem levels input = .error .lengthOverflow) :
    ∃ header, Meets levels input header ∧ header.Overflows := by
  induction levels generalizing input with
  | zero => cases h
  | succ levels ih =>
    cases input with
    | nil => cases h
    | cons byte input =>
      by_cases hbyte : byte < 0x80
      · rw [decodeItem_small levels hbyte] at h
        cases h
      replace hbyte := UInt8.not_lt.mp hbyte
      rw [decodeItem_header levels hbyte, bind_eq_error] at h
      obtain hread | ⟨⟨header, behind⟩, hread, hitem⟩ := h
      · exact absurd hread (Header.read_ne_lengthOverflow byte input)
      obtain ⟨hbound, hinput⟩ := (Header.read_eq_ok_iff hbyte).mp hread
      rw [hinput]
      obtain hover | ⟨items, inner, rest, hkind, hend, hdepth, hlength, rfl, hinner⟩ :=
        Header.readItem_eq_lengthOverflow (readsEncodings_decodeItem levels) hitem
      · exact ⟨header, .front behind hbound, hover⟩
      · obtain ⟨kind, length⟩ := header
        obtain rfl : kind = .list := hkind
        obtain ⟨met, hmeets, hover⟩ := ih hinner
        exact ⟨met, .inside rest hdepth hlength hend hmeets, hover⟩

theorem decodeItem_eq_lengthOverflow {levels : Nat} {input : Bytes} :
    decodeItem levels input = .error .lengthOverflow ↔
      ∃ header, Meets levels input header ∧ header.Overflows := by
  constructor
  · exact meets_of_decodeItem
  · rintro ⟨header, hmeets, hover⟩
    exact decodeItem_of_meets hmeets hover

/-- The last first byte of the headers of this kind. -/
def Kind.last : Kind → UInt8
  | string => 0xbf
  | list => 0xff

namespace Header

/-- The two parts of a header: a first byte of its kind, as the sums in it come out without a carry,
and the digits of a long length. -/
structure IsWritten (header : Header) (first : UInt8) (field : Bytes) : Prop where
  lower : header.kind.offset ≤ first
  upper : first ≤ header.kind.last
  short : header.length < shortLimit →
    first.toNat = header.kind.offset.toNat + header.length ∧ field = []
  long : shortLimit ≤ header.length →
    first.toNat = header.kind.offset.toNat + 55 + field.length ∧ 1 ≤ field.length ∧
      field.length ≤ 8 ∧ field.head? ≠ some 0 ∧ field.toNat = header.length

/-- The bytes are read as this header, and nothing is left. -/
def IsRead (header : Header) (bytes : Bytes) : Prop :=
  ∃ first field, 0x80 ≤ first ∧ bytes = first :: field ∧ read first field = .ok (header, [])

theorem isRead_iff {header : Header} {bytes : Bytes} :
    header.IsRead bytes ↔ header.length < lengthBound ∧ bytes = header.encode := by
  constructor
  · rintro ⟨first, field, hfirst, rfl, hread⟩
    rwa [read_eq_ok_iff hfirst, List.append_nil] at hread
  · rintro ⟨hbound, rfl⟩
    obtain ⟨first, field, hencode⟩ := List.exists_cons_of_ne_nil header.encode_ne_nil
    have hinput : first :: field = header.encode ++ [] := by rw [List.append_nil, hencode]
    have hfirst := le_of_encode hbound hinput
    exact ⟨first, field, hfirst, hencode, (read_eq_ok_iff hfirst).mpr ⟨hbound, hinput⟩⟩

theorem IsRead.unique {header other : Header} {bytes : Bytes} (h : header.IsRead bytes)
    (hother : other.IsRead bytes) : header = other := by
  obtain ⟨first, field, -, rfl, hread⟩ := h
  obtain ⟨_, _, -, hbytes, hread'⟩ := hother
  cases hbytes
  rw [hread] at hread'
  cases hread'
  rfl

theorem le_last (kind : Kind) {code : Nat} (hcode : code < 64) : kind.first code ≤ kind.last := by
  have hlast : kind.last.toNat = kind.offset.toNat + 63 := by cases kind <;> rfl
  rw [UInt8.le_iff_toNat_le, Kind.toNat_first kind hcode, hlast]
  omega

theorem offset_le (kind : Kind) {code : Nat} (hcode : code < 64) :
    kind.offset ≤ kind.first code := by
  rw [UInt8.le_iff_toNat_le, Kind.toNat_first kind hcode]
  omega

theorem isWritten (header : Header) (hbound : header.length < lengthBound) :
    ∃ first field, header.encode = first :: field ∧ header.IsWritten first field := by
  obtain hshort | hlong := Nat.lt_or_ge header.length shortLimit
  · have hcode : header.length < 64 := by
      rw [shortLimit] at hshort
      omega
    refine ⟨_, _, encode_short hshort, offset_le _ hcode, le_last _ hcode, fun _ => ?_, ?_⟩
    · exact ⟨Kind.toNat_first _ hcode, rfl⟩
    · intro hlong
      omega
  · have hpos := length_ofNat_pos hlong
    have hwidth := length_ofNat_le_eight hbound
    have hcode : 55 + (Bytes.ofNat header.length).length < 64 := by omega
    refine ⟨_, _, encode_long hlong, offset_le _ hcode, le_last _ hcode, ?_, fun _ => ?_⟩
    · intro hshort
      omega
    · rw [Kind.toNat_first _ hcode, Nat.add_assoc]
      exact ⟨rfl, hpos, hwidth, Bytes.head?_ofNat _, Bytes.toNat_ofNat _⟩

theorem bijOn_encode : Set.BijOn encode {header | header.length < lengthBound}
    {bytes | ∃ header, IsRead header bytes} := by
  refine ⟨?_, ?_, ?_⟩
  · intro header hbound
    exact ⟨header, isRead_iff.mpr ⟨hbound, rfl⟩⟩
  · intro header hheader other hother h
    exact (isRead_iff.mpr ⟨hheader, rfl⟩).unique (isRead_iff.mpr ⟨hother, h⟩)
  · rintro bytes ⟨header, hread⟩
    obtain ⟨hbound, rfl⟩ := isRead_iff.mp hread
    exact ⟨header, hbound, rfl⟩

end Header

/-- Headers of lengths below 2⁶⁴ are written and read without loss. An overflow is reported just
when the reading comes to a payload that would end past 2⁶⁴ - 1, and on no input is a slice or a
byte asked for that is not there. -/
theorem headers_match_lengths :
    (∀ (kind : Kind) (length : Nat), length < lengthBound →
      Positional.encodeLength length kind.offset = .ok (encodeLength length kind.offset) ∧
      ∃ first field, encodeLength length kind.offset = first :: field ∧
        Header.IsWritten ⟨kind, length⟩ first field ∧
        (shortLimit ≤ length →
          ∀ rest, decodeLongLength field.length (field ++ rest) = .ok (length, rest))) ∧
    Set.BijOn Header.encode {header | header.length < lengthBound}
      {bytes | ∃ header, Header.IsRead header bytes} ∧
    (∀ width input length rest, decodeLongLength width input = .ok (length, rest) →
      shortLimit ≤ length ∧ length < lengthBound ∧ (wordDigits (.ofNat length)).length = width ∧
        input = wordDigits (.ofNat length) ++ rest) ∧
    (∀ field : Bytes, field.length ≤ 8 →
      field.foldlM Positional.appendLengthByte 0 = .ok field.toNat) ∧
    (∀ width input, width ≤ 8 → decodeLongLength width input ≠ .error .lengthOverflow) ∧
    (∀ start length input, splitPayload start length input = .error .lengthOverflow ↔
      2 ^ 64 - 1 < start + length) ∧
    (∀ input, decode input = .error .lengthOverflow ↔
      ∃ header, Meets (maxDepth + 1) input header ∧
        2 ^ 64 - 1 < header.encode.length + header.length) ∧
    ∀ levels input, Positional.decodeItem levels input =
      (decodeItem levels input).mapError .refused := by
  refine ⟨fun kind length hbound => ⟨Positional.encodeLength_eq kind hbound, ?_⟩,
    Header.bijOn_encode, ?_, fun _ => Positional.foldlM_appendLengthByte_of_le,
    fun _ input hwidth => decodeLongLength_ne_lengthOverflow hwidth input,
    fun _ _ _ => splitPayload_eq_lengthOverflow, fun _ => decodeItem_eq_lengthOverflow,
    Positional.decodeItem_eq⟩
  · obtain ⟨first, field, hencode, hwritten⟩ := Header.isWritten ⟨kind, length⟩ hbound
    refine ⟨first, field, hencode, hwritten, fun hlong rest => ?_⟩
    rw [Header.encode_long hlong] at hencode
    obtain ⟨-, rfl⟩ := List.cons.inj hencode
    exact decodeLongLength_eq_ok_iff.mpr ⟨hlong, hbound, rfl, rfl⟩
  · intro width input length rest hread
    obtain ⟨hlong, hbound, hwidth, hinput⟩ := decodeLongLength_eq_ok_iff.mp hread
    rw [wordDigits_ofNat hbound]
    exact ⟨hlong, hbound, hwidth, hinput⟩

/-- The largest length, and a list with a header of this length inside: its payload would start at
the ninth byte and end past the last number of a word. -/
theorem headers_match_lengths_largest :
    let largest := 2 ^ 64 - 1
    let field : Bytes := List.replicate 8 0xff
    largest < lengthBound ∧ shortLimit ≤ largest ∧
      Positional.encodeLength largest listOffset = .ok (0xff :: field) ∧
      decodeLongLength 8 (field ++ [0x00]) = .ok (largest, [0x00]) ∧
      wordDigits (.ofNat largest) = field ∧ field.length ≤ 8 ∧
      field.foldlM Positional.appendLengthByte 0 = .ok largest ∧
      decode ([0xc9, 0xbf] ++ field) = .error .lengthOverflow := by
  intro largest field
  obtain ⟨hwrite, -, hread, hfold, -, -, hover, -⟩ := headers_match_lengths
  have hbound : largest < lengthBound := by decide
  have hencode : encodeLength largest Kind.list.offset = 0xff :: field := by decide +kernel
  obtain ⟨hguarded, first, digits, hbytes, -, hdecode⟩ := hwrite .list largest hbound
  obtain ⟨rfl, rfl⟩ := List.cons.inj (hbytes.symm.trans hencode)
  have hlong := hdecode (by decide) [0x00]
  have hdigits := (hread _ _ _ _ hlong).2.2.2
  refine ⟨hbound, by decide, by rw [← hencode]; exact hguarded, hlong,
    (List.append_cancel_right hdigits).symm, le_rfl, hfold field le_rfl, ?_⟩
  have hinput : [0xc9, 0xbf] ++ field = (Header.mk .list 9).encode ++
      ((Item.encodeAll []).flatten ++ ((Header.mk .string largest).encode ++ []) ++ []) := by
    decide +kernel
  have hinside : Meets (maxDepth + 1) ([0xc9, 0xbf] ++ field) ⟨.string, largest⟩ := by
    rw [hinput]
    exact .inside [] (Nat.zero_le _) (by decide +kernel) (by decide +kernel) (.front [] hbound)
  exact (hover _).mpr ⟨_, hinside, by decide +kernel⟩

end HybridTx.Rlp
