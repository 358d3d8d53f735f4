import HybridTx.Proofs.Results
import HybridTx.Text.Utf8
import Mathlib.Tactic.SplitIfs

/-! Bytes are read as text just when they are the encoding of one, and that text is what is read.
What a text is written as in front of other bytes, or behind them, changes nothing about whether
they are text. -/

namespace HybridTx.Utf8

theorem encodeChar_ascii {c : Char} (h : c.toNat < 0x80) :
    String.utf8EncodeChar c = [UInt8.ofNat c.toNat] ∧
      start (UInt8.ofNat c.toNat) = .character c := by
  have hsize : c.toNat < UInt8.size := Nat.lt_trans h (by decide)
  constructor
  · rw [String.utf8EncodeChar]
    exact if_pos (Nat.le_of_lt_succ h)
  · rw [start, UInt8.toNat_ofNat_of_lt' hsize]
    simp only [h, if_true, Char.ofNat_toNat]

/-- The bytes that go on with a sequence to its end, and the character that they complete. -/
def Sequence.Completes (s : Sequence) (c : Char) : Bytes → Prop
  | [] => False
  | byte :: bytes =>
    match s.extend? byte with
    | some (.inl found) => found = c ∧ bytes = []
    | some (.inr next) => next.Completes c bytes
    | none => False

theorem toNat_ofNat_of_valid {n : Nat} (h : n.isValidChar) : (Char.ofNat n).val.toNat = n := by
  rw [Char.ofNat, dif_pos h]
  rfl

section Completes

variable {value taken missing : Nat} {low high byte : UInt8} {bytes : Bytes} {c : Char}

theorem completes_cons {s : Sequence} :
    s.Completes c (byte :: bytes) ↔ s.extend? byte = some (.inl c) ∧ bytes = [] ∨
      ∃ next, s.extend? byte = some (.inr next) ∧ next.Completes c bytes := by
  rw [Sequence.Completes]
  cases s.extend? byte with
  | none => simp
  | some step => cases step <;> simp

theorem completes_last :
    Sequence.Completes ⟨value, taken, 1, low, high⟩ c (byte :: bytes) ↔
      (low.toNat ≤ byte.toNat ∧ byte.toNat ≤ high.toNat) ∧
        Char.ofNat (value * 64 + (byte.toNat - 0x80)) = c ∧ bytes = [] := by
  rw [Sequence.Completes, Sequence.extend?, ← UInt8.le_iff_toNat_le, ← UInt8.le_iff_toNat_le]
  by_cases hrange : low ≤ byte ∧ byte ≤ high <;> simp [hrange]

theorem completes_next :
    Sequence.Completes ⟨value, taken, missing + 2, low, high⟩ c (byte :: bytes) ↔
      (low.toNat ≤ byte.toNat ∧ byte.toNat ≤ high.toNat) ∧
        Sequence.Completes
          ⟨value * 64 + (byte.toNat - 0x80), taken + 1, missing + 1, 0x80, 0xbf⟩ c bytes := by
  rw [Sequence.Completes, Sequence.extend?, ← UInt8.le_iff_toNat_le, ← UInt8.le_iff_toNat_le]
  by_cases hrange : low ≤ byte ∧ byte ≤ high <;> simp [hrange]

end Completes

theorem exists_cons_of_completes {s : Sequence} {c : Char} {bytes : Bytes}
    (h : s.Completes c bytes) : ∃ byte rest, bytes = byte :: rest := by
  cases bytes with
  | nil => exact h.elim
  | cons byte rest => exact ⟨byte, rest, rfl⟩

/-- Sequences start with a byte in one of three ranges, which tells how many bytes follow. -/
theorem start_eq_sequence {byte : UInt8} {s : Sequence} :
    start byte = .sequence s ↔
      (0xc2 ≤ byte.toNat ∧ byte.toNat < 0xe0 ∧ s = ⟨byte.toNat - 0xc0, 1, 1, 0x80, 0xbf⟩) ∨
      (0xe0 ≤ byte.toNat ∧ byte.toNat < 0xf0 ∧
        s = ⟨byte.toNat - 0xe0, 1, 2, if byte.toNat = 0xe0 then 0xa0 else 0x80,
          if byte.toNat = 0xed then 0x9f else 0xbf⟩) ∨
      (0xf0 ≤ byte.toNat ∧ byte.toNat < 0xf5 ∧
        s = ⟨byte.toNat - 0xf0, 1, 3, if byte.toNat = 0xf0 then 0x90 else 0x80,
          if byte.toNat = 0xf4 then 0x8f else 0xbf⟩) := by
  rw [start]
  generalize byte.toNat = n
  split_ifs <;> simp only [Start.sequence.injEq, false_iff, eq_comm (a := s)] <;> grind

theorem ofNat_eq {n : Nat} (byte : UInt8) (h : n = byte.toNat) : UInt8.ofNat n = byte := by
  rw [h, UInt8.ofNat_toNat]

theorem encodeChar_two {c : Char} {b0 b1 : UInt8} (h0 : 0xc2 ≤ b0.toNat ∧ b0.toNat < 0xe0)
    (h1 : 0x80 ≤ b1.toNat ∧ b1.toNat ≤ 0xbf)
    (hc : Char.ofNat ((b0.toNat - 0xc0) * 64 + (b1.toNat - 0x80)) = c) :
    String.utf8EncodeChar c = [b0, b1] := by
  have hvalid : ((b0.toNat - 0xc0) * 64 + (b1.toNat - 0x80)).isValidChar := by
    rw [Nat.isValidChar]
    omega
  have hvalue := toNat_ofNat_of_valid hvalid
  rw [hc] at hvalue
  simp only [String.utf8EncodeChar, hvalue]
  rw [if_neg (by omega), if_pos (by omega), ofNat_eq b0 (by omega),
    ofNat_eq b1 (by omega)]

theorem encodeChar_three {c : Char} {b0 b1 b2 : UInt8} (h0 : 0xe0 ≤ b0.toNat ∧ b0.toNat < 0xf0)
    (h1 : 0x80 ≤ b1.toNat ∧ b1.toNat ≤ 0xbf) (hlong : b0.toNat = 0xe0 → 0xa0 ≤ b1.toNat)
    (hsurrogate : b0.toNat = 0xed → b1.toNat ≤ 0x9f) (h2 : 0x80 ≤ b2.toNat ∧ b2.toNat ≤ 0xbf)
    (hc : Char.ofNat (((b0.toNat - 0xe0) * 64 + (b1.toNat - 0x80)) * 64 + (b2.toNat - 0x80)) = c) :
    String.utf8EncodeChar c = [b0, b1, b2] := by
  have hvalid : (((b0.toNat - 0xe0) * 64 + (b1.toNat - 0x80)) * 64 +
      (b2.toNat - 0x80)).isValidChar := by
    rw [Nat.isValidChar]
    omega
  have hvalue := toNat_ofNat_of_valid hvalid
  rw [hc] at hvalue
  simp only [String.utf8EncodeChar, hvalue]
  rw [if_neg (by omega), if_neg (by omega), if_pos (by omega), ofNat_eq b0 (by omega),
    ofNat_eq b1 (by omega), ofNat_eq b2 (by omega)]

theorem encodeChar_four {c : Char} {b0 b1 b2 b3 : UInt8} (h0 : 0xf0 ≤ b0.toNat ∧ b0.toNat < 0xf5)
    (h1 : 0x80 ≤ b1.toNat ∧ b1.toNat ≤ 0xbf) (hlong : b0.toNat = 0xf0 → 0x90 ≤ b1.toNat)
    (hlast : b0.toNat = 0xf4 → b1.toNat ≤ 0x8f) (h2 : 0x80 ≤ b2.toNat ∧ b2.toNat ≤ 0xbf)
    (h3 : 0x80 ≤ b3.toNat ∧ b3.toNat ≤ 0xbf)
    (hc : Char.ofNat ((((b0.toNat - 0xf0) * 64 + (b1.toNat - 0x80)) * 64 + (b2.toNat - 0x80)) * 64 +
      (b3.toNat - 0x80)) = c) :
    String.utf8EncodeChar c = [b0, b1, b2, b3] := by
  have hvalid : ((((b0.toNat - 0xf0) * 64 + (b1.toNat - 0x80)) * 64 + (b2.toNat - 0x80)) * 64 +
      (b3.toNat - 0x80)).isValidChar := by
    rw [Nat.isValidChar]
    omega
  have hvalue := toNat_ofNat_of_valid hvalid
  rw [hc] at hvalue
  simp only [String.utf8EncodeChar, hvalue]
  rw [if_neg (by omega), if_neg (by omega), if_neg (by omega), ofNat_eq b0 (by omega),
    ofNat_eq b1 (by omega), ofNat_eq b2 (by omega),
    ofNat_eq b3 (by omega)]

/-- A sequence is read as the character that is written so. -/
theorem encodeChar_of_completes {byte : UInt8} {s : Sequence} {c : Char} {bytes : Bytes}
    (hstart : start byte = .sequence s) (h : s.Completes c bytes) :
    String.utf8EncodeChar c = byte :: bytes := by
  obtain ⟨hlow, hhigh, rfl⟩ | ⟨hlow, hhigh, rfl⟩ | ⟨hlow, hhigh, rfl⟩ :=
    start_eq_sequence.mp hstart
  · obtain ⟨b1, _, rfl⟩ := exists_cons_of_completes h
    obtain ⟨h1, hc, rfl⟩ := completes_last.mp h
    exact encodeChar_two ⟨hlow, hhigh⟩ h1 hc
  · obtain ⟨b1, _, rfl⟩ := exists_cons_of_completes h
    obtain ⟨h1, h⟩ := completes_next.mp h
    obtain ⟨b2, _, rfl⟩ := exists_cons_of_completes h
    obtain ⟨h2, hc, rfl⟩ := completes_last.mp h
    have hsecond : (0x80 ≤ b1.toNat ∧ b1.toNat ≤ 0xbf) ∧
        (byte.toNat = 0xe0 → 0xa0 ≤ b1.toNat) ∧ (byte.toNat = 0xed → b1.toNat ≤ 0x9f) := by
      split_ifs at h1 <;> simp only [UInt8.reduceToNat] at h1 <;> omega
    exact encodeChar_three ⟨hlow, hhigh⟩ hsecond.1 hsecond.2.1 hsecond.2.2 h2 hc
  · obtain ⟨b1, _, rfl⟩ := exists_cons_of_completes h
    obtain ⟨h1, h⟩ := completes_next.mp h
    obtain ⟨b2, _, rfl⟩ := exists_cons_of_completes h
    obtain ⟨h2, h⟩ := completes_next.mp h
    obtain ⟨b3, _, rfl⟩ := exists_cons_of_completes h
    obtain ⟨h3, hc, rfl⟩ := completes_last.mp h
    have hsecond : (0x80 ≤ b1.toNat ∧ b1.toNat ≤ 0xbf) ∧
        (byte.toNat = 0xf0 → 0x90 ≤ b1.toNat) ∧ (byte.toNat = 0xf4 → b1.toNat ≤ 0x8f) := by
      split_ifs at h1 <;> simp only [UInt8.reduceToNat] at h1 <;> omega
    exact encodeChar_four ⟨hlow, hhigh⟩ hsecond.1 hsecond.2.1 hsecond.2.2 h2 h3 hc

/-- Every character that is not of ASCII is written as a sequence. -/
theorem completes_encodeChar {c : Char} (h : 0x80 ≤ c.toNat) :
    ∃ byte bytes s, String.utf8EncodeChar c = byte :: bytes ∧ start byte = .sequence s ∧
      s.Completes c bytes := by
  have hvalid : c.val.toNat < 0xd800 ∨ 0xdfff < c.val.toNat ∧ c.val.toNat < 0x110000 := c.valid
  have hc : Char.ofNat c.val.toNat = c := Char.ofNat_toNat c
  have hsmall : ∀ {n : Nat}, n < 256 → (UInt8.ofNat n).toNat = n := UInt8.toNat_ofNat_of_lt'
  rw [Char.toNat] at h
  rw [String.utf8EncodeChar]
  generalize c.val.toNat = v at *
  rw [if_neg (by omega)]
  split
  · have h0 := hsmall (n := v / 64 % 32 + 192) (by omega)
    have h1 := hsmall (n := v % 64 + 128) (by omega)
    refine ⟨_, _, _, rfl, start_eq_sequence.mpr (.inl ⟨by omega, by omega, rfl⟩),
      completes_last.mpr ⟨?_, (congrArg Char.ofNat ?_).trans hc, rfl⟩⟩
    · simp only [UInt8.reduceToNat]
      omega
    · omega
  split
  · have h0 := hsmall (n := v / 4096 % 16 + 224) (by omega)
    have h1 := hsmall (n := v / 64 % 64 + 128) (by omega)
    have h2 := hsmall (n := v % 64 + 128) (by omega)
    refine ⟨_, _, _, rfl, start_eq_sequence.mpr (.inr (.inl ⟨by omega, by omega, rfl⟩)),
      completes_next.mpr ⟨?_, completes_last.mpr ⟨?_, (congrArg Char.ofNat ?_).trans hc, rfl⟩⟩⟩
    · split_ifs <;> simp only [UInt8.reduceToNat] <;> omega
    · simp only [UInt8.reduceToNat]
      omega
    · omega
  · have h0 := hsmall (n := v / 262144 % 8 + 240) (by omega)
    have h1 := hsmall (n := v / 4096 % 64 + 128) (by omega)
    have h2 := hsmall (n := v / 64 % 64 + 128) (by omega)
    have h3 := hsmall (n := v % 64 + 128) (by omega)
    refine ⟨_, _, _, rfl, start_eq_sequence.mpr (.inr (.inr ⟨by omega, by omega, rfl⟩)),
      completes_next.mpr ⟨?_, completes_next.mpr ⟨?_,
        completes_last.mpr ⟨?_, (congrArg Char.ofNat ?_).trans hc, rfl⟩⟩⟩⟩
    · split_ifs <;> simp only [UInt8.reduceToNat] <;> omega
    · simp only [UInt8.reduceToNat]
      omega
    · simp only [UInt8.reduceToNat]
      omega
    · omega

theorem ascii_of_encodeChar {c : Char} {byte : UInt8} {bytes : Bytes}
    (h : String.utf8EncodeChar c = byte :: bytes) (hbyte : byte.toNat < 0x80) :
    c.toNat < 0x80 ∧ byte = UInt8.ofNat c.toNat ∧ bytes = [] := by
  by_cases hascii : c.toNat < 0x80
  · rw [(encodeChar_ascii hascii).1] at h
    obtain ⟨hfirst, hrest⟩ := List.cons.inj h
    exact ⟨hascii, hfirst.symm, hrest.symm⟩
  · obtain ⟨first, rest, s, hencode, hstart, -⟩ := completes_encodeChar (Nat.le_of_not_lt hascii)
    rw [h] at hencode
    obtain ⟨rfl, -⟩ := List.cons.inj hencode
    have hrange := start_eq_sequence.mp hstart
    omega

theorem decodeFrom_of_completes {s : Sequence} {c : Char} {bytes : Bytes} (h : s.Completes c bytes)
    (index : Nat) (read : List Char) (rest : Bytes) :
    decodeFrom index read (some s) (bytes ++ rest) =
      decodeFrom (index + bytes.length) (c :: read) none rest := by
  induction bytes generalizing s index with
  | nil => exact h.elim
  | cons byte bytes ih =>
    rw [List.cons_append, decodeFrom]
    obtain ⟨hstep, rfl⟩ | ⟨further, hstep, h⟩ := completes_cons.mp h
    · simp only [hstep]
      rfl
    · simp only [hstep, ih h, List.length_cons, Nat.add_assoc, Nat.add_comm 1]

theorem completes_of_decodeFrom {s : Sequence} {bytes : Bytes} {index : Nat}
    {read text : List Char} (h : decodeFrom index read (some s) bytes = .ok text) :
    ∃ c front rest, bytes = front ++ rest ∧ s.Completes c front ∧
      decodeFrom (index + front.length) (c :: read) none rest = .ok text := by
  induction bytes generalizing s index with
  | nil => cases h
  | cons byte bytes ih =>
    rw [decodeFrom] at h
    split at h
    · next c hstep =>
      exact ⟨c, [byte], bytes, rfl, completes_cons.mpr (.inl ⟨hstep, rfl⟩), h⟩
    · next further hstep =>
      obtain ⟨c, front, rest, rfl, hcompletes, hrest⟩ := ih h
      refine ⟨c, byte :: front, rest, rfl,
        completes_cons.mpr (.inr ⟨further, hstep, hcompletes⟩), ?_⟩
      rwa [List.length_cons, Nat.add_comm front.length, ← Nat.add_assoc]
    · cases h

theorem decodeFrom_encodeChar (c : Char) (index : Nat) (read : List Char) (rest : Bytes) :
    decodeFrom index read none (String.utf8EncodeChar c ++ rest) =
      decodeFrom (index + (String.utf8EncodeChar c).length) (c :: read) none rest := by
  by_cases hascii : c.toNat < 0x80
  · obtain ⟨hencode, hstart⟩ := encodeChar_ascii hascii
    rw [hencode, List.singleton_append, decodeFrom, hstart]
    rfl
  · obtain ⟨byte, bytes, s, hencode, hstart, hcompletes⟩ :=
      completes_encodeChar (Nat.le_of_not_lt hascii)
    rw [hencode, List.cons_append, decodeFrom, hstart]
    simp only [decodeFrom_of_completes hcompletes, List.length_cons, Nat.add_assoc, Nat.add_comm 1]

theorem decodeFrom_encodeChars (text : List Char) (index : Nat) (read : List Char) (rest : Bytes) :
    ∃ behind, decodeFrom index read none (text.flatMap String.utf8EncodeChar ++ rest) =
      decodeFrom behind (text.reverse ++ read) none rest := by
  induction text generalizing index read with
  | nil => exact ⟨index, rfl⟩
  | cons c text ih =>
    rw [List.flatMap_cons, List.append_assoc, decodeFrom_encodeChar, List.reverse_cons,
      List.append_assoc]
    exact ih _ _

theorem encodeChar_of_start {byte : UInt8} {c : Char} (h : start byte = .character c) :
    String.utf8EncodeChar c = [byte] := by
  rw [start] at h
  split_ifs at h with hascii
  cases h
  have hvalue := toNat_ofNat_of_valid (n := byte.toNat) (.inl (by omega))
  rw [String.utf8EncodeChar, hvalue, if_pos (by omega), UInt8.ofNat_toNat]

theorem exists_encodeChar_of_decodeFrom {index : Nat} {read text : List Char} {byte : UInt8}
    {bytes : Bytes} (h : decodeFrom index read none (byte :: bytes) = .ok text) :
    ∃ c rest behind, byte :: bytes = String.utf8EncodeChar c ++ rest ∧
      decodeFrom behind (c :: read) none rest = .ok text := by
  rw [decodeFrom] at h
  split at h
  · next c hstart =>
    exact ⟨c, bytes, _, by rw [encodeChar_of_start hstart, List.singleton_append], h⟩
  · next s hstart =>
    obtain ⟨c, front, rest, rfl, hcompletes, hrest⟩ := completes_of_decodeFrom h
    exact ⟨c, rest, _, by rw [encodeChar_of_completes hstart hcompletes, List.cons_append], hrest⟩
  · cases h

theorem length_encodeChar_pos (c : Char) : 0 < (String.utf8EncodeChar c).length := by
  rw [String.length_utf8EncodeChar]
  exact c.utf8Size_pos

/-- Bytes are read as the text that is written so, and no other bytes are read. -/
theorem decodeFrom_eq_ok {bytes : Bytes} {index : Nat} {read text : List Char} :
    decodeFrom index read none bytes = .ok text ↔
      ∃ tail, bytes = tail.flatMap String.utf8EncodeChar ∧ text = read.reverse ++ tail := by
  constructor
  · intro h
    induction hlength : bytes.length using Nat.strongRecOn generalizing bytes index read with
    | ind length ih =>
      cases bytes with
      | nil =>
        cases h
        exact ⟨[], rfl, by rw [List.append_nil]⟩
      | cons byte bytes =>
        obtain ⟨c, rest, behind, hbytes, hrest⟩ := exists_encodeChar_of_decodeFrom h
        have hpos := length_encodeChar_pos c
        rw [hbytes, List.length_append] at hlength
        obtain ⟨tail, rfl, rfl⟩ := ih rest.length (by omega) hrest rfl
        exact ⟨c :: tail, hbytes, by rw [List.reverse_cons, List.append_assoc]; rfl⟩
  · rintro ⟨tail, rfl, rfl⟩
    obtain ⟨behind, hread⟩ := decodeFrom_encodeChars tail index read []
    rw [List.append_nil] at hread
    rw [hread, decodeFrom, List.reverse_append, List.reverse_reverse]

theorem decode_eq_ok_iff {bytes : Bytes} {text : String} :
    decode bytes = .ok text ↔ bytes = Bytes.ofString text := by
  simp only [decode, map_eq_ok, decodeFrom_eq_ok, List.reverse_nil, List.nil_append]
  constructor
  · rintro ⟨_, ⟨tail, rfl, rfl⟩, rfl⟩
    rw [Bytes.ofString, String.toList_ofList]
  · rintro rfl
    exact ⟨_, ⟨_, rfl, rfl⟩, String.ofList_toList⟩

theorem ofString_injective : Function.Injective Bytes.ofString := by
  intro text other h
  have hread : decode (Bytes.ofString other) = .ok text := decode_eq_ok_iff.mpr h.symm
  rw [decode_eq_ok_iff.mpr rfl] at hread
  exact (Except.ok.inj hread).symm

/-- The bytes spell a text. -/
def IsText (bytes : Bytes) : Prop := ∃ text, bytes = Bytes.ofString text

theorem ofString_append (front back : String) :
    Bytes.ofString (front ++ back) = Bytes.ofString front ++ Bytes.ofString back := by
  simp only [Bytes.ofString, String.toList_append, List.flatMap_append]

theorem isText_ofString_append {front : String} {bytes : Bytes} :
    IsText (Bytes.ofString front ++ bytes) ↔ IsText bytes := by
  constructor
  · rintro ⟨text, htext⟩
    obtain ⟨behind, hskip⟩ := decodeFrom_encodeChars front.toList 0 [] bytes
    have hread : decodeFrom 0 [] none (Bytes.ofString front ++ bytes) = .ok text.toList :=
      decodeFrom_eq_ok.mpr ⟨text.toList, htext, rfl⟩
    rw [Bytes.ofString, hskip] at hread
    obtain ⟨tail, hbytes, -⟩ := decodeFrom_eq_ok.mp hread
    exact ⟨String.ofList tail, by rw [hbytes, Bytes.ofString, String.toList_ofList]⟩
  · rintro ⟨back, rfl⟩
    exact ⟨front ++ back, (ofString_append front back).symm⟩

/-- The bytes of a character behind its first one. -/
def IsContinuation (byte : UInt8) : Prop := 0x80 ≤ byte.toNat ∧ byte.toNat ≤ 0xbf

theorem isContinuation_ofNat (n : Nat) : IsContinuation (UInt8.ofNat (n % 64 + 128)) := by
  rw [IsContinuation, UInt8.toNat_ofNat']
  omega

/-- Only the first byte of a character can start one. -/
theorem encodeChar_eq_cons (c : Char) :
    ∃ byte bytes, String.utf8EncodeChar c = byte :: bytes ∧ ¬IsContinuation byte ∧
      ∀ next ∈ bytes, IsContinuation next := by
  have hfirst : ∀ n, n % 256 < 0x80 ∨ 0xc0 ≤ n % 256 → ¬IsContinuation (UInt8.ofNat n) := by
    intro n hn h
    rw [IsContinuation, UInt8.toNat_ofNat'] at h
    omega
  have hnone : ∀ next ∈ ([] : Bytes), IsContinuation next := by simp
  rw [String.utf8EncodeChar]
  generalize c.val.toNat = v
  have hcons : ∀ {n : Nat} {bytes : Bytes}, (∀ next ∈ bytes, IsContinuation next) →
      ∀ next ∈ UInt8.ofNat (n % 64 + 128) :: bytes, IsContinuation next :=
    fun h => List.forall_mem_cons.mpr ⟨isContinuation_ofNat _, h⟩
  split_ifs with hone htwo hthree
  · exact ⟨_, _, rfl, hfirst v (by omega), hnone⟩
  · exact ⟨_, _, rfl, hfirst _ (by omega), hcons hnone⟩
  · exact ⟨_, _, rfl, hfirst _ (by omega), hcons (hcons hnone)⟩
  · exact ⟨_, _, rfl, hfirst _ (by omega), hcons (hcons (hcons hnone))⟩

/-- What stands in front of characters, in the bytes of characters, is characters: one that is
broken off does not go on with the start of another one. -/
theorem exists_front_of_append {chars back : List Char} {bytes : Bytes}
    (h : bytes ++ back.flatMap String.utf8EncodeChar = chars.flatMap String.utf8EncodeChar) :
    ∃ front : List Char, bytes = front.flatMap String.utf8EncodeChar := by
  induction chars generalizing bytes with
  | nil => exact ⟨[], (List.append_eq_nil_iff.mp h).1⟩
  | cons c chars ih =>
    rw [List.flatMap_cons, List.append_eq_append_iff] at h
    obtain ⟨broken, hchar, hback⟩ | ⟨further, rfl, hfurther⟩ := h
    · cases broken with
      | nil => exact ⟨[c], by simpa using hchar.symm⟩
      | cons next broken =>
        cases bytes with
        | nil => exact ⟨[], rfl⟩
        | cons byte bytes =>
          obtain ⟨first, later, hfirst, -, hlater⟩ := encodeChar_eq_cons c
          rw [hfirst] at hchar
          have hnext : IsContinuation next := by
            refine hlater next ?_
            rw [(List.cons.inj hchar).2]
            simp
          cases back with
          | nil => cases hback
          | cons d back =>
            obtain ⟨start, rest, hstart, hnot, -⟩ := encodeChar_eq_cons d
            rw [List.flatMap_cons, hstart] at hback
            rw [(List.cons.inj hback).1] at hnot
            exact absurd hnext hnot
    · obtain ⟨front, rfl⟩ := ih hfurther.symm
      exact ⟨c :: front, rfl⟩

theorem isText_append_ofString {bytes : Bytes} {back : String} :
    IsText (bytes ++ Bytes.ofString back) ↔ IsText bytes := by
  constructor
  · rintro ⟨text, htext⟩
    obtain ⟨front, hfront⟩ := exists_front_of_append htext
    exact ⟨String.ofList front, by rw [hfront, Bytes.ofString, String.toList_ofList]⟩
  · rintro ⟨front, rfl⟩
    exact ⟨front ++ back, (ofString_append front back).symm⟩

end HybridTx.Utf8
