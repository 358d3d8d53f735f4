import HybridTx.Bytes.Hex

/-! Reading bytes as UTF-8 text, one byte at a time. A strict reading reports the first fault; a
lenient one puts a replacement character where a fault is. -/

namespace HybridTx.Utf8

/-- The first fault of a byte string that is no text. -/
inductive Error
  | invalid (size index : Nat)
  | incomplete (index : Nat)
deriving DecidableEq, Repr

/-- The wording of a fault. -/
def Error.message : Error → String
  | .invalid size index => s!"invalid utf-8 sequence of {size} bytes from index {index}"
  | .incomplete index => s!"incomplete utf-8 byte sequence from index {index}"

/-- The beginning of a character of several bytes: its bits so far, how many bytes were taken and
how many are missing, and the range of the next byte. -/
structure Sequence where
  value : Nat
  taken : Nat
  missing : Nat
  low : UInt8 := 0x80
  high : UInt8 := 0xbf
deriving DecidableEq, Repr

/-- What a byte is that does not continue a character. -/
inductive Start
  | character (c : Char)
  | sequence (s : Sequence)
  | invalid

/-- The range of the second byte excludes long forms, surrogates and numbers past the last code
point, so every sequence that can be completed is a character in its only form. -/
def start (byte : UInt8) : Start :=
  let n := byte.toNat
  if n < 0x80 then .character (Char.ofNat n)
  else if n < 0xc2 then .invalid
  else if n < 0xe0 then .sequence { value := n - 0xc0, taken := 1, missing := 1 }
  else if n < 0xf0 then
    .sequence ⟨n - 0xe0, 1, 2, if n = 0xe0 then 0xa0 else 0x80, if n = 0xed then 0x9f else 0xbf⟩
  else if n < 0xf5 then
    .sequence ⟨n - 0xf0, 1, 3, if n = 0xf0 then 0x90 else 0x80, if n = 0xf4 then 0x8f else 0xbf⟩
  else .invalid

/-- The sequence after one more byte, or the character that it completes. -/
def Sequence.extend? (s : Sequence) (byte : UInt8) : Option (Char ⊕ Sequence) :=
  if s.low ≤ byte ∧ byte ≤ s.high then
    let value := s.value * 64 + (byte.toNat - 0x80)
    if s.missing = 1 then some (.inl (Char.ofNat value))
    else some (.inr { value, taken := s.taken + 1, missing := s.missing - 1 })
  else none

/-- Reads on behind `index` bytes, of which an unfinished sequence is pending. -/
def decodeFrom (index : Nat) (read : List Char) :
    Option Sequence → Bytes → Except Error (List Char)
  | none, [] => .ok read.reverse
  | some s, [] => .error (.incomplete (index - s.taken))
  | none, byte :: rest =>
    match start byte with
    | .character c => decodeFrom (index + 1) (c :: read) none rest
    | .sequence s => decodeFrom (index + 1) read (some s) rest
    | .invalid => .error (.invalid 1 index)
  | some s, byte :: rest =>
    match s.extend? byte with
    | some (.inl c) => decodeFrom (index + 1) (c :: read) none rest
    | some (.inr s) => decodeFrom (index + 1) read (some s) rest
    | none => .error (.invalid s.taken (index - s.taken))

/-- The text that a byte string spells. -/
def decode (bytes : Bytes) : Except Error String :=
  (decodeFrom 0 [] none bytes).map String.ofList

/-- Stands for bytes that are no text. -/
def replacement : Char := '\ufffd'

/-- Goes on, with `read` the reversed text so far. A byte that breaks off a sequence starts anew. -/
def lenientFrom (read : List Char) : Option Sequence → Bytes → List Char
  | none, [] => read.reverse
  | some _, [] => (replacement :: read).reverse
  | pending, byte :: rest =>
    match pending.bind (·.extend? byte) with
    | some (.inl c) => lenientFrom (c :: read) none rest
    | some (.inr s) => lenientFrom read (some s) rest
    | none =>
      let read := if pending.isSome then replacement :: read else read
      match start byte with
      | .character c => lenientFrom (c :: read) none rest
      | .sequence s => lenientFrom read (some s) rest
      | .invalid => lenientFrom (replacement :: read) none rest

/-- The text of a byte string, with a replacement character for each fault. -/
def decodeLenient (bytes : Bytes) : String := String.ofList (lenientFrom [] none bytes)

end HybridTx.Utf8
