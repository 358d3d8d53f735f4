import HybridTx.Proofs.Rlp.Length

/-! Headers. The first byte of a header tells its kind and a code, which is the length of the
payload or the width of the length field behind it; a header is read exactly where `encodeLength`
has written it. -/

namespace HybridTx.Rlp

theorem toNat_stringOffset : stringOffset.toNat = 128 := rfl

theorem toNat_listOffset : listOffset.toNat = 192 := rfl

/-- What a header stands in front of. -/
inductive Kind
  | string
  | list

namespace Kind

/-- The first bytes of the headers of this kind start here. -/
def offset : Kind → UInt8
  | string => stringOffset
  | list => listOffset

/-- The kind of the header that starts with a byte from 0x80 on. -/
def ofFirst (first : UInt8) : Kind := if first < listOffset then string else list

/-- The code of the header that starts with a byte from 0x80 on: a length below 56, or 55 more than
the width of the length field behind it. -/
def codeOf (first : UInt8) : Nat := first.toNat - (ofFirst first).offset.toNat

/-- The first byte of a header of this kind with this code. -/
def first (kind : Kind) (code : Nat) : UInt8 := kind.offset + UInt8.ofNat code

theorem toNat_first (kind : Kind) {code : Nat} (hcode : code < 64) :
    (kind.first code).toNat = kind.offset.toNat + code := by
  have hoffset : kind.offset.toNat ≤ 192 := by cases kind <;> decide
  rw [first, UInt8.toNat_add, UInt8.toNat_ofNat']
  omega

theorem first_lt_iff (kind : Kind) {code : Nat} (hcode : code < 64) (bound : UInt8) :
    kind.first code < bound ↔ kind.offset.toNat + code < bound.toNat := by
  rw [UInt8.lt_iff_toNat_lt, toNat_first kind hcode]

theorem toNat_first_sub (kind : Kind) {code : Nat} (hcode : code < 64) {base : UInt8}
    (hbase : base.toNat ≤ kind.offset.toNat + code) :
    (kind.first code - base).toNat = kind.offset.toNat + code - base.toNat := by
  rw [UInt8.toNat_sub_of_le, toNat_first kind hcode]
  rwa [UInt8.le_iff_toNat_le, toNat_first kind hcode]

/-- A byte from 0x80 on has one kind and one code, which is below 64. -/
theorem eq_first_iff {byte : UInt8} (hbyte : 0x80 ≤ byte) {kind : Kind} {code : Nat}
    (hcode : code < 64) :
    byte = kind.first code ↔ ofFirst byte = kind ∧ codeOf byte = code := by
  have hlow : 128 ≤ byte.toNat := UInt8.le_iff_toNat_le.mp hbyte
  have hhigh := byte.toNat_lt
  rw [← UInt8.toNat_inj, toNat_first kind hcode, codeOf, ofFirst]
  simp only [UInt8.lt_iff_toNat_lt, toNat_listOffset]
  cases kind <;> split <;>
    simp only [offset, toNat_stringOffset, toNat_listOffset, true_and, false_and, iff_false,
      reduceCtorEq] <;>
    omega

theorem codeOf_lt (byte : UInt8) : codeOf byte < 64 := by
  have hhigh := byte.toNat_lt
  rw [codeOf, ofFirst]
  simp only [UInt8.lt_iff_toNat_lt, toNat_listOffset]
  split
  · simp only [offset, toNat_stringOffset]
    omega
  · simp only [offset, toNat_listOffset]
    omega

end Kind

/-- What a header announces. -/
structure Header where
  kind : Kind
  length : Nat

namespace Header

/-- The bytes of a header. -/
def encode (header : Header) : Bytes := encodeLength header.length header.kind.offset

/-- Reads the header that starts with `byte`, from 0x80 on, and returns the bytes behind it. -/
def read (byte : UInt8) (input : Bytes) : Except Error (Header × Bytes) :=
  if Kind.codeOf byte < shortLimit then .ok (⟨Kind.ofFirst byte, Kind.codeOf byte⟩, input)
  else do
    let (length, rest) ← decodeLongLength (Kind.codeOf byte - 55) input
    .ok (⟨Kind.ofFirst byte, length⟩, rest)

theorem encode_short {header : Header} (h : header.length < shortLimit) :
    header.encode = [header.kind.first header.length] := by
  rw [encode, encodeLength, if_pos h, Kind.first]

theorem encode_long {header : Header} (h : shortLimit ≤ header.length) :
    header.encode = header.kind.first (55 + (Bytes.ofNat header.length).length) ::
      Bytes.ofNat header.length := by
  rw [encode, encodeLength, if_neg (Nat.not_lt.mpr h), Kind.first, UInt8.ofNat_add,
    ← UInt8.add_assoc]
  rfl

theorem read_of_encode {byte : UInt8} (hbyte : 0x80 ≤ byte) {input rest : Bytes} {header : Header}
    (hbound : header.length < lengthBound) (hinput : byte :: input = header.encode ++ rest) :
    read byte input = .ok (header, rest) := by
  by_cases hshort : header.length < shortLimit
  · rw [encode_short hshort, List.singleton_append] at hinput
    obtain ⟨hfirst, rfl⟩ := List.cons.inj hinput
    have hcode : header.length < 64 := by rw [shortLimit] at hshort; omega
    obtain ⟨hkind, hlength⟩ := (Kind.eq_first_iff hbyte hcode).mp hfirst
    rw [read, hlength, hkind, if_pos hshort]
  · have hlong : shortLimit ≤ header.length := Nat.le_of_not_lt hshort
    rw [encode_long hlong, List.cons_append] at hinput
    obtain ⟨hfirst, rfl⟩ := List.cons.inj hinput
    have hpos := length_ofNat_pos hlong
    have hwidth := length_ofNat_le_eight hbound
    obtain ⟨hkind, hcode⟩ := (Kind.eq_first_iff hbyte (by omega)).mp hfirst
    have hfield : decodeLongLength (55 + (Bytes.ofNat header.length).length - 55)
        (Bytes.ofNat header.length ++ rest) = .ok (header.length, rest) :=
      decodeLongLength_eq_ok_iff.mpr ⟨hlong, hbound, by omega, rfl⟩
    rw [read, hcode, hkind, hfield, if_neg (by rw [shortLimit]; omega)]
    rfl

theorem encode_of_read {byte : UInt8} (hbyte : 0x80 ≤ byte) {input rest : Bytes} {header : Header}
    (hread : read byte input = .ok (header, rest)) :
    header.length < lengthBound ∧ byte :: input = header.encode ++ rest := by
  have hcode := Kind.codeOf_lt byte
  rw [read] at hread
  split at hread
  · next hshort =>
    cases hread
    refine ⟨lt_trans hshort (by decide), ?_⟩
    rw [encode_short hshort, ← (Kind.eq_first_iff hbyte hcode).mpr ⟨rfl, rfl⟩]
    rfl
  · next hshort =>
    obtain ⟨⟨length, rest'⟩, hfield, hpair⟩ := bind_eq_ok.mp hread
    cases hpair
    obtain ⟨hlong, hbound, hwidth, rfl⟩ := decodeLongLength_eq_ok_iff.mp hfield
    have hfirst : byte = (Kind.ofFirst byte).first (55 + (Bytes.ofNat length).length) := by
      rw [shortLimit] at hshort
      exact (Kind.eq_first_iff hbyte (by omega)).mpr ⟨rfl, by omega⟩
    refine ⟨hbound, ?_⟩
    rw [encode_long hlong, List.cons_append, ← hfirst]

/-- A header is read exactly where the encoder has written it. -/
theorem read_eq_ok_iff {byte : UInt8} (hbyte : 0x80 ≤ byte) {input rest : Bytes}
    {header : Header} :
    read byte input = .ok (header, rest) ↔
      header.length < lengthBound ∧ byte :: input = header.encode ++ rest :=
  ⟨encode_of_read hbyte, fun h => read_of_encode hbyte h.1 h.2⟩

theorem read_ne_lengthOverflow (byte : UInt8) (input : Bytes) :
    read byte input ≠ .error .lengthOverflow := by
  have hcode := Kind.codeOf_lt byte
  unfold read
  split
  · nofun
  · rw [ne_eq, bind_eq_error, not_or]
    refine ⟨decodeLongLength_ne_lengthOverflow (by omega) input, ?_⟩
    rintro ⟨field, -, h⟩
    cases h

/-- The first byte of a header is at least 0x80. -/
theorem le_of_encode {byte : UInt8} {input rest : Bytes} {header : Header}
    (hbound : header.length < lengthBound) (hinput : byte :: input = header.encode ++ rest) :
    0x80 ≤ byte := by
  obtain ⟨code, hcode, hfirst⟩ : ∃ code < 64, byte = header.kind.first code := by
    by_cases hshort : header.length < shortLimit
    · rw [encode_short hshort] at hinput
      exact ⟨_, by rw [shortLimit] at hshort; omega, (List.cons.inj hinput).1⟩
    · rw [encode_long (Nat.le_of_not_lt hshort)] at hinput
      have hwidth := length_ofNat_le_eight hbound
      exact ⟨_, by omega, (List.cons.inj hinput).1⟩
  have hoffset : 128 ≤ header.kind.offset.toNat := by cases header.kind <;> decide
  rw [hfirst, UInt8.le_iff_toNat_le, Kind.toNat_first _ hcode]
  exact le_trans hoffset (Nat.le_add_right _ _)

theorem encode_ne_nil (header : Header) : header.encode ≠ [] := by
  by_cases hshort : header.length < shortLimit
  · simp [encode_short hshort]
  · simp [encode_long (Nat.le_of_not_lt hshort)]

/-- The width of a header is one byte, and that of the length field if it has one. -/
theorem length_encode_short (header : Header) (h : header.length < shortLimit) :
    header.encode.length = 1 := by
  rw [encode_short h, List.length_singleton]

theorem length_encode_long (header : Header) (h : shortLimit ≤ header.length) :
    header.encode.length = 1 + (Bytes.ofNat header.length).length := by
  rw [encode_long h, List.length_cons, Nat.add_comm]

/-- The header of a longer payload is not shorter. -/
theorem length_encode_mono {header other : Header} (h : header.length ≤ other.length) :
    header.encode.length ≤ other.encode.length := by
  by_cases hshort : header.length < shortLimit
  · rw [length_encode_short header hshort]
    exact List.length_pos_iff.mpr other.encode_ne_nil
  · have hlong : shortLimit ≤ header.length := Nat.le_of_not_lt hshort
    rw [length_encode_long header hlong, length_encode_long other (hlong.trans h)]
    have hdigits : other.length < 256 ^ (Bytes.ofNat other.length).length :=
      Bytes.length_ofNat_le_iff.mp le_rfl
    exact Nat.add_le_add_left (Bytes.length_ofNat_le_iff.mpr (lt_of_le_of_lt h hdigits)) 1

end Header

end HybridTx.Rlp
