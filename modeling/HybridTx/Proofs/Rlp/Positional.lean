import HybridTx.Proofs.Rlp.Canonical
import HybridTx.Proofs.Rlp.Extent

/-! Reading by position. Here the decoder's reading is told by places in the input and by numbers of
a width, and it halts where a slice or a byte is asked for that is not there, or where a sum or a
difference has no number of its width. It never halts so, because each of these steps stands behind
a test that makes it safe, often one in another function; what is left is the decoder. -/

namespace HybridTx.Rlp.Positional

/-- Why a reading ends early: the input is refused, or a step cannot be taken. -/
inductive Halt
  | refused (fault : Error)
  /-- A slice or a byte is asked for that is not in the input. -/
  | outOfRange
  /-- A sum or a difference is no number of its width. -/
  | overflow
  /-- Input is left when a loop has used up its rounds. -/
  | endless
deriving DecidableEq, Repr

def demand {α : Type} (halt : Halt) : Option α → Except Halt α
  | some a => .ok a
  | none => .error halt

/-- A number, if a word holds it. -/
def word? (value : Nat) : Option Nat := if value < lengthBound then some value else none

/-- The sum of a byte and a number, if a byte holds it. -/
def byteSum? (byte : UInt8) (value : Nat) : Option UInt8 :=
  if byte.toNat + value < 256 then some (byte + .ofNat value) else none

/-- The difference of two bytes, if it is not below zero. -/
def byteDifference? (byte base : UInt8) : Option Nat :=
  if base ≤ byte then some (byte - base).toNat else none

/-- The bytes from `start` up to `stop`, if they stand in the input. -/
def range? (input : Bytes) (start stop : Nat) : Option Bytes :=
  if start ≤ stop ∧ stop ≤ input.length then some ((input.take stop).drop start) else none

def slice (input : Bytes) (start stop : Nat) : Except Halt Bytes :=
  demand .outOfRange (range? input start stop)

def byteAt (input : Bytes) (place : Nat) : Except Halt UInt8 := demand .outOfRange input[place]?

def encodeLength (length : Nat) (offset : UInt8) : Except Halt Bytes :=
  if length < shortLimit then do
    let first ← demand .overflow (byteSum? offset length)
    .ok [first]
  else do
    let digits := wordDigits (.ofNat length)
    let base ← demand .overflow (byteSum? offset 55)
    let first ← demand .overflow (byteSum? base digits.length)
    .ok (first :: digits)

/-- Takes up one more byte of a length field, by a product and a sum. -/
def appendLengthByte (length : Nat) (byte : UInt8) : Except Halt Nat := do
  let product ← demand (.refused .lengthOverflow) (word? (length * 256))
  demand (.refused .lengthOverflow) (word? (product + byte.toNat))

/-- Reads the length field that stands behind the first byte of the input. -/
def decodeLongLength (input : Bytes) (width : Nat) : Except Halt Nat := do
  let stop ← demand .overflow (word? (1 + width))
  let field ← demand (.refused .unexpectedEnd) (range? input 1 stop)
  let first ← byteAt field 0
  if first = 0 then .error (.refused .nonCanonicalLength)
  else do
    let length ← field.foldlM appendLengthByte 0
    if length < shortLimit then .error (.refused .nonCanonicalLength) else .ok length

/-- The place where a payload starts, and its length, when the first byte is more than `base` by the
width of its length field. -/
def longHeader (input : Bytes) (first base : UInt8) : Except Halt (Nat × Nat) := do
  let width ← demand .overflow (byteDifference? first base)
  let length ← decodeLongLength input width
  let start ← demand .overflow (word? (1 + width))
  .ok (start, length)

def splitPayload (input : Bytes) (start length : Nat) : Except Halt (Bytes × Bytes) := do
  let stop ← demand (.refused .lengthOverflow) (word? (start + length))
  if input.length < stop then .error (.refused .unexpectedEnd)
  else do
    let payload ← slice input start stop
    let rest ← slice input stop input.length
    .ok (payload, rest)

/-- Reads items until the input is used up. -/
def readItems (read : Bytes → Except Halt (Item × Bytes)) :
    (rounds : Nat) → (items : List Item) → Bytes → Except Halt (List Item)
  | _, items, [] => .ok items.reverse
  | 0, _, _ :: _ => .error .endless
  | rounds + 1, items, input@(_ :: _) => do
    let (item, rest) ← read input
    readItems read rounds (item :: items) rest

def decodeListPayload (read : Bytes → Except Halt (Item × Bytes)) (input : Bytes)
    (start length : Nat) : Except Halt (Item × Bytes) := do
  let (payload, rest) ← splitPayload input start length
  let items ← readItems read payload.length [] payload
  .ok (.list items, rest)

def decodeItem : (levels : Nat) → Bytes → Except Halt (Item × Bytes)
  | 0, _ => .error (.refused .tooDeep)
  | levels + 1, input => do
    let first ← demand (.refused .emptyInput) input.head?
    if first < 0x80 then do
      let byte ← slice input 0 1
      let rest ← slice input 1 input.length
      .ok (.bytes byte, rest)
    else if first < 0xb8 then do
      let length ← demand .overflow (byteDifference? first stringOffset)
      let (payload, rest) ← splitPayload input 1 length
      if length = 1 then do
        let byte ← byteAt payload 0
        if byte < stringOffset then .error (.refused .wrappedByte) else .ok (.bytes payload, rest)
      else .ok (.bytes payload, rest)
    else if first < 0xc0 then do
      let (start, length) ← longHeader input first 0xb7
      let (payload, rest) ← splitPayload input start length
      .ok (.bytes payload, rest)
    else if first < 0xf8 then do
      let length ← demand .overflow (byteDifference? first listOffset)
      decodeListPayload (decodeItem levels) input 1 length
    else do
      let (start, length) ← longHeader input first 0xf7
      decodeListPayload (decodeItem levels) input start length

@[simp] theorem demand_some {α : Type} (halt : Halt) (a : α) : demand halt (some a) = .ok a := rfl

theorem word?_of_lt {value : Nat} (h : value < lengthBound) : word? value = some value := if_pos h

theorem word?_of_le {value : Nat} (h : lengthBound ≤ value) : word? value = none :=
  if_neg (Nat.not_lt.mpr h)

theorem byteDifference?_of_le {byte base : UInt8} (h : base ≤ byte) :
    byteDifference? byte base = some (byte - base).toNat := if_pos h

theorem byteSum?_of_lt {byte : UInt8} {value : Nat} (h : byte.toNat + value < 256) :
    byteSum? byte value = some (byte + .ofNat value) := if_pos h

theorem range?_append (front middle back : Bytes) :
    range? (front ++ (middle ++ back)) front.length (front.length + middle.length) =
      some middle := by
  have hstop : front.length + middle.length = (front ++ middle).length :=
    List.length_append.symm
  rw [range?, if_pos ⟨Nat.le_add_right _ _, by simp⟩, hstop, ← List.append_assoc,
    List.take_left, List.drop_left]

theorem slice_append (front middle back : Bytes) :
    slice (front ++ (middle ++ back)) front.length (front.length + middle.length) = .ok middle := by
  rw [slice, range?_append, demand_some]

theorem slice_to_end (front back : Bytes) :
    slice (front ++ back) front.length (front ++ back).length = .ok back := by
  have hslice := slice_append front back []
  rwa [List.append_nil, ← List.length_append] at hslice

theorem encodeLength_eq (kind : Kind) {length : Nat} (h : length < lengthBound) :
    encodeLength length kind.offset = .ok (Rlp.encodeLength length kind.offset) := by
  have hoffset : kind.offset.toNat ≤ 192 := by cases kind <;> decide
  rw [encodeLength, Rlp.encodeLength]
  by_cases hshort : length < shortLimit
  · have hfirst : kind.offset.toNat + length < 256 := by
      rw [shortLimit] at hshort
      omega
    rw [if_pos hshort, if_pos hshort, byteSum?_of_lt hfirst]
    rfl
  · have hwidth := length_ofNat_le_eight h
    have hbase : kind.offset.toNat + 55 < 256 := by omega
    have hfirst : (kind.offset + .ofNat 55).toNat + (Bytes.ofNat length).length < 256 := by
      rw [UInt8.toNat_add, UInt8.toNat_ofNat']
      omega
    rw [if_neg hshort, if_neg hshort, wordDigits_ofNat h]
    simp only [byteSum?_of_lt hbase, byteSum?_of_lt hfirst, demand_some, ok_bind]
    rfl

theorem appendLengthByte_eq (length : Nat) (byte : UInt8) :
    appendLengthByte length byte = (Rlp.appendLengthByte length byte).mapError .refused := by
  rw [appendLengthByte, Rlp.appendLengthByte]
  by_cases hsum : length * 256 + byte.toNat < lengthBound
  · have hproduct : length * 256 < lengthBound := Nat.lt_of_le_of_lt (Nat.le_add_right _ _) hsum
    rw [if_pos hsum, word?_of_lt hproduct, demand_some, ok_bind, word?_of_lt hsum]
    rfl
  · rw [if_neg hsum]
    replace hsum := Nat.le_of_not_lt hsum
    by_cases hproduct : length * 256 < lengthBound
    · rw [word?_of_lt hproduct, demand_some, ok_bind, word?_of_le hsum]
      rfl
    · rw [word?_of_le (Nat.le_of_not_lt hproduct)]
      rfl

theorem foldlM_appendLengthByte_eq (field : Bytes) (length : Nat) :
    field.foldlM appendLengthByte length =
      (field.foldlM Rlp.appendLengthByte length).mapError .refused := by
  induction field generalizing length with
  | nil => rfl
  | cons byte field ih =>
    rw [List.foldlM_cons, List.foldlM_cons, appendLengthByte_eq, mapError_bind]
    simp only [ih]

theorem foldlM_appendLengthByte_of_le {field : Bytes} (h : field.length ≤ 8) :
    field.foldlM appendLengthByte 0 = .ok field.toNat := by
  have hzero : 0 < lengthBound := by decide
  rw [foldlM_appendLengthByte_eq, foldlM_appendLengthByte _ hzero, Nat.zero_mul, Nat.zero_add,
    if_pos (toNat_lt_lengthBound h)]
  rfl

/-- The value of a length field, unless a header byte could hold it. -/
theorem fieldValue_eq (field rest : Bytes) :
    (do
      let length ← field.foldlM appendLengthByte 0
      if length < shortLimit then .error (.refused .nonCanonicalLength) else .ok length) =
    ((do
      let length ← field.foldlM Rlp.appendLengthByte 0
      if length < shortLimit then .error .nonCanonicalLength else .ok (length, rest)).map
        Prod.fst).mapError Halt.refused := by
  rw [foldlM_appendLengthByte_eq]
  cases field.foldlM Rlp.appendLengthByte 0 with
  | error e => rfl
  | ok length =>
    change (if length < shortLimit then _ else _) = _
    rw [ok_bind]
    split <;> rfl

/-- A length field has a first byte, because its width is not zero. -/
theorem decodeLongLength_eq {width : Nat} (hpos : 0 < width) (hwidth : width < 256) (first : UInt8)
    (input : Bytes) :
    decodeLongLength (first :: input) width =
      ((Rlp.decodeLongLength width input).map Prod.fst).mapError .refused := by
  have hstop : 1 + width < lengthBound := by rw [lengthBound]; omega
  unfold decodeLongLength
  rw [word?_of_lt hstop, demand_some, ok_bind]
  obtain hshort | hlong := Nat.lt_or_ge input.length width
  · rw [decodeLongLength_short hshort, range?, if_neg (by rw [List.length_cons]; omega)]
    rfl
  · have hfield : (input.take width).length = width := List.length_take_of_le hlong
    have hrange := range?_append [first] (input.take width) (input.drop width)
    rw [List.take_append_drop, List.length_singleton, List.singleton_append, hfield] at hrange
    obtain ⟨byte, field, hcons⟩ : ∃ byte field, input.take width = byte :: field :=
      List.exists_cons_of_ne_nil (List.ne_nil_of_length_pos (by omega))
    rw [hrange, demand_some, ok_bind, Rlp.decodeLongLength]
    simp only [hfield, Nat.lt_irrefl, if_false]
    simp only [hcons, byteAt, List.getElem?_cons_zero, demand_some, ok_bind, List.head?_cons,
      Option.some.injEq]
    by_cases hzero : byte = 0
    · rw [if_pos hzero, if_pos hzero]
      rfl
    · rw [if_neg hzero, if_neg hzero]
      exact fieldValue_eq (byte :: field) (input.drop width)

/-- The bytes of a payload are there, because the length of the input is tested against its end. -/
theorem splitPayload_eq (front input : Bytes) (length : Nat) :
    splitPayload (front ++ input) front.length length =
      (Rlp.splitPayload front.length length input).mapError .refused := by
  rw [splitPayload]
  obtain hend | hend := Nat.lt_or_ge (front.length + length) lengthBound
  · rw [word?_of_lt hend, demand_some, ok_bind]
    obtain hshort | hlong := Nat.lt_or_ge input.length length
    · rw [if_pos (by rw [List.length_append]; omega), splitPayload_short hend hshort]
      rfl
    · have hpayload : (input.take length).length = length := List.length_take_of_le hlong
      have hslice := slice_append front (input.take length) (input.drop length)
      have hrest := slice_to_end (front ++ input.take length) (input.drop length)
      rw [List.append_assoc, List.length_append] at hrest
      rw [List.take_append_drop, hpayload] at hslice hrest
      rw [if_neg (by rw [List.length_append]; omega), hslice, ok_bind, hrest, ok_bind,
        splitPayload_eq_ok_iff.mpr ⟨hend, hpayload, (List.take_append_drop length input).symm⟩]
      rfl
  · rw [word?_of_le hend, Rlp.splitPayload, if_pos hend]
    rfl

section Items

variable {levels : Nat} {read : Bytes → Except Error (Item × Bytes)}
  {readAt : Bytes → Except Halt (Item × Bytes)}

/-- The rounds of a loop suffice, because each item takes at least one byte. -/
theorem readItems_eq (hread : ReadsEncodings levels read)
    (hsame : ∀ input, readAt input = (read input).mapError .refused)
    {rounds : Nat} {input : Bytes} (hrounds : input.length ≤ rounds) (items : List Item) :
    readItems readAt rounds items input =
      (Rlp.readItems read rounds items input).mapError .refused := by
  induction rounds generalizing input items with
  | zero =>
    obtain rfl := List.length_eq_zero_iff.mp (Nat.le_zero.mp hrounds)
    rfl
  | succ rounds ih =>
    cases input with
    | nil => rfl
    | cons byte input =>
      rw [readItems, Rlp.readItems, hsame]
      cases hitem : read (byte :: input) with
      | error e => rfl
      | ok split =>
        obtain ⟨item, rest⟩ := split
        have hrest := hread.length_lt hitem
        exact ih (by omega) (item :: items)

theorem decodeListPayload_eq (hread : ReadsEncodings levels read)
    (hsame : ∀ input, readAt input = (read input).mapError .refused)
    (front input : Bytes) (length : Nat) :
    decodeListPayload readAt (front ++ input) front.length length =
      (Rlp.decodeListPayload read front.length length input).mapError .refused := by
  rw [decodeListPayload, Rlp.decodeListPayload, splitPayload_eq]
  cases hsplit : Rlp.splitPayload front.length length input with
  | error e => rfl
  | ok split =>
    obtain ⟨payload, rest⟩ := split
    obtain ⟨-, hlength, -⟩ := splitPayload_eq_ok_iff.mp hsplit
    have hitems := readItems_eq hread hsame (le_of_eq hlength) []
    change readItems readAt payload.length [] payload >>= _ = _
    rw [hlength, hitems]
    simp only [ok_bind]
    cases Rlp.readItems read length [] payload <;> rfl

end Items

theorem longHeader_bind_eq {α : Type} {first base : UInt8} (hbase : base < first) {input : Bytes}
    {nextAt : Nat × Nat → Except Halt α} (next : Nat → Nat → Bytes → Except Error α)
    (hnext : ∀ front rest length, first :: input = front ++ rest →
      nextAt (front.length, length) = (next front.length length rest).mapError .refused) :
    longHeader (first :: input) first base >>= nextAt =
      (Rlp.decodeLongLength (first - base).toNat input >>= fun field =>
        next (1 + (first - base).toNat) field.1 field.2).mapError .refused := by
  have hlt := UInt8.lt_iff_toNat_lt.mp hbase
  have hbyte := first.toNat_lt
  have hwidth : (first - base).toNat = first.toNat - base.toNat :=
    UInt8.toNat_sub_of_le _ _ (UInt8.le_of_lt hbase)
  rw [longHeader, byteDifference?_of_le (UInt8.le_of_lt hbase), demand_some, ok_bind,
    decodeLongLength_eq (by omega) (by omega)]
  generalize (first - base).toNat = width at hwidth
  have hstart : 1 + width < lengthBound := by rw [lengthBound]; omega
  cases hfield : Rlp.decodeLongLength width input with
  | error e => rfl
  | ok field =>
    obtain ⟨length, rest⟩ := field
    obtain ⟨-, -, hdigits, rfl⟩ := decodeLongLength_eq_ok_iff.mp hfield
    have hfront := hnext (first :: Bytes.ofNat length) rest length rfl
    rw [List.length_cons, hdigits, Nat.add_comm] at hfront
    rw [word?_of_lt hstart]
    exact hfront

theorem shortString_eq (front input : Bytes) (length : Nat) :
    (do
      let (payload, rest) ← splitPayload (front ++ input) front.length length
      if length = 1 then do
        let byte ← byteAt payload 0
        if byte < stringOffset then .error (.refused .wrappedByte) else .ok (.bytes payload, rest)
      else .ok (.bytes payload, rest)) =
    (do
      let (payload, rest) ← Rlp.splitPayload front.length length input
      match payload with
      | [byte] => if byte < stringOffset then .error .wrappedByte else .ok (.bytes payload, rest)
      | _ => .ok (.bytes payload, rest) : Except Error (Item × Bytes)).mapError Halt.refused := by
  rw [splitPayload_eq]
  cases hsplit : Rlp.splitPayload front.length length input with
  | error e => rfl
  | ok split =>
    obtain ⟨payload, rest⟩ := split
    obtain ⟨-, rfl, -⟩ := splitPayload_eq_ok_iff.mp hsplit
    match payload with
    | [] | _ :: _ :: _ => rfl
    | [byte] =>
      change (if byte < stringOffset then _ else _) = Except.mapError _ (if _ then _ else _)
      rw [mapError_guard]
      rfl

/-- Reading by position is the decoder's reading. -/
theorem decodeItem_eq (levels : Nat) (input : Bytes) :
    decodeItem levels input = (Rlp.decodeItem levels input).mapError .refused := by
  induction levels generalizing input with
  | zero => rfl
  | succ levels ih =>
    cases input with
    | nil => rfl
    | cons first input =>
      have hread := readsEncodings_decodeItem levels
      rw [decodeItem, Rlp.decodeItem, List.head?_cons, demand_some, ok_bind]
      by_cases hsmall : first < 0x80
      · have hbyte : slice (first :: input) 0 1 = .ok [first] := slice_append [] [first] input
        have hrest : slice (first :: input) 1 (first :: input).length = .ok input :=
          slice_to_end [first] input
        rw [if_pos hsmall, if_pos hsmall, hbyte, ok_bind, hrest]
        rfl
      rw [if_neg hsmall, if_neg hsmall]
      by_cases hshortString : first < 0xb8
      · have hlength := byteDifference?_of_le (UInt8.not_lt.mp hsmall)
        rw [if_pos hshortString, if_pos hshortString, stringOffset, hlength, demand_some, ok_bind]
        exact shortString_eq [first] input _
      rw [if_neg hshortString, if_neg hshortString]
      by_cases hlongString : first < 0xc0
      · rw [if_pos hlongString, if_pos hlongString]
        have hbase : 0xb7 < first := UInt8.lt_of_lt_of_le (by decide) (UInt8.not_lt.mp hshortString)
        refine longHeader_bind_eq hbase (fun start length rest => do
            let (payload, rest) ← Rlp.splitPayload start length rest
            .ok (Item.bytes payload, rest)) fun front rest length hfront => ?_
        rw [hfront]
        simp only [splitPayload_eq, mapError_bind]
        rfl
      rw [if_neg hlongString, if_neg hlongString]
      by_cases hshortList : first < 0xf8
      · have hlength := byteDifference?_of_le (UInt8.not_lt.mp hlongString)
        rw [if_pos hshortList, if_pos hshortList, listOffset, hlength, demand_some, ok_bind]
        exact decodeListPayload_eq hread ih [first] input _
      rw [if_neg hshortList, if_neg hshortList]
      have hbase : 0xf7 < first := UInt8.lt_of_lt_of_le (by decide) (UInt8.not_lt.mp hshortList)
      refine longHeader_bind_eq hbase (Rlp.decodeListPayload (Rlp.decodeItem levels))
        fun front rest length hfront => ?_
      rw [hfront]
      exact decodeListPayload_eq hread ih front rest length

end HybridTx.Rlp.Positional
