import HybridTx.Bytes.Basic

/-! SHA-256, and the keyed digest HMAC over it. -/

namespace HybridTx.Sha256

/-- The eight working words. -/
structure Words where
  (a b c d e f g h : UInt32)
deriving DecidableEq

/-- The words before the first block. -/
def Words.initial : Words :=
  ⟨0x6a09e667, 0xbb67ae85, 0x3c6ef372, 0xa54ff53a, 0x510e527f, 0x9b05688c, 0x1f83d9ab, 0x5be0cd19⟩

/-- The constants of the 64 rounds. -/
def roundConstants : List UInt32 :=
  [0x428a2f98, 0x71374491, 0xb5c0fbcf, 0xe9b5dba5, 0x3956c25b, 0x59f111f1, 0x923f82a4, 0xab1c5ed5,
    0xd807aa98, 0x12835b01, 0x243185be, 0x550c7dc3, 0x72be5d74, 0x80deb1fe, 0x9bdc06a7, 0xc19bf174,
    0xe49b69c1, 0xefbe4786, 0x0fc19dc6, 0x240ca1cc, 0x2de92c6f, 0x4a7484aa, 0x5cb0a9dc, 0x76f988da,
    0x983e5152, 0xa831c66d, 0xb00327c8, 0xbf597fc7, 0xc6e00bf3, 0xd5a79147, 0x06ca6351, 0x14292967,
    0x27b70a85, 0x2e1b2138, 0x4d2c6dfc, 0x53380d13, 0x650a7354, 0x766a0abb, 0x81c2c92e, 0x92722c85,
    0xa2bfe8a1, 0xa81a664b, 0xc24b8b70, 0xc76c51a3, 0xd192e819, 0xd6990624, 0xf40e3585, 0x106aa070,
    0x19a4c116, 0x1e376c08, 0x2748774c, 0x34b0bcb5, 0x391c0cb3, 0x4ed8aa4a, 0x5b9cca4f, 0x682e6ff3,
    0x748f82ee, 0x78a5636f, 0x84c87814, 0x8cc70208, 0x90befffa, 0xa4506ceb, 0xbef9a3f7, 0xc67178f2]

/-- Turns a word right by `amount` bits, for `0 < amount < 32`. -/
@[inline] def turn (word amount : UInt32) : UInt32 := word >>> amount ||| word <<< (32 - amount)

/-- One round with a word of the schedule and its constant. -/
def Words.round (w : Words) (word constant : UInt32) : Words :=
  let e1 := turn w.e 6 ^^^ turn w.e 11 ^^^ turn w.e 25
  let choice := (w.e &&& w.f) ^^^ (~~~w.e &&& w.g)
  let t1 := w.h + e1 + choice + constant + word
  let a0 := turn w.a 2 ^^^ turn w.a 13 ^^^ turn w.a 22
  let majority := (w.a &&& w.b) ^^^ (w.a &&& w.c) ^^^ (w.b &&& w.c)
  ⟨t1 + (a0 + majority), w.a, w.b, w.c, w.d + t1, w.e, w.f, w.g⟩

/-- Adds word by word. -/
def Words.add (v w : Words) : Words :=
  ⟨v.a + w.a, v.b + w.b, v.c + w.c, v.d + w.d, v.e + w.e, v.f + w.f, v.g + w.g, v.h + w.h⟩

/-- The big-endian words of a byte string; a rest of fewer than four bytes is dropped. -/
def wordsOfBytes : Bytes → List UInt32
  | b0 :: b1 :: b2 :: b3 :: rest =>
    (b0.toUInt32 <<< 24 ||| b1.toUInt32 <<< 16 ||| b2.toUInt32 <<< 8 ||| b3.toUInt32)
      :: wordsOfBytes rest
  | _ => []

/-- The next word of the schedule, from the words so far with the latest first. -/
def nextWord (latest : List UInt32) : UInt32 :=
  let w2 := latest.getD 1 0
  let w15 := latest.getD 14 0
  let s0 := turn w15 7 ^^^ turn w15 18 ^^^ w15 >>> 3
  let s1 := turn w2 17 ^^^ turn w2 19 ^^^ w2 >>> 10
  s1 + latest.getD 6 0 + s0 + latest.getD 15 0

/-- Puts `count` more words in front of the schedule so far. -/
def extendSchedule : (count : Nat) → List UInt32 → List UInt32
  | 0, latest => latest
  | count + 1, latest => extendSchedule count (nextWord latest :: latest)

/-- The 64 words of the schedule of a block. -/
def schedule (block : Bytes) : List UInt32 :=
  (extendSchedule 48 (wordsOfBytes block).reverse).reverse

/-- Takes in a block of 64 bytes. -/
def compress (w : Words) (block : Bytes) : Words :=
  w.add ((List.zip (schedule block) roundConstants).foldl (fun v (word, c) => v.round word c) w)

/-- A message with the bit that closes it, zeros, and its length in bits. -/
def pad (message : Bytes) : Bytes :=
  message ++ 0x80 :: List.replicate ((119 - message.length % 64) % 64) 0
    ++ Bytes.bigEndian 8 (8 * message.length)

/-- Takes in the first `count` blocks of a padded message. -/
def compressBlocks : (count : Nat) → Words → Bytes → Words
  | 0, w, _ => w
  | count + 1, w, bytes => compressBlocks count (compress w (bytes.take 64)) (bytes.drop 64)

/-- The big-endian bytes of the words. -/
def Words.toBytes (w : Words) : Bytes :=
  [w.a, w.b, w.c, w.d, w.e, w.f, w.g, w.h].flatMap fun word => Bytes.bigEndian 4 word.toNat

/-- The SHA-256 digest of a message. -/
def digest (message : Bytes) : Bytes :=
  let padded := pad message
  (compressBlocks (padded.length / 64) .initial padded).toBytes

/-- The keyed digest of a message for a key of at most one block. -/
def hmac (key message : Bytes) : Bytes :=
  let block := key ++ List.replicate (64 - key.length) 0
  digest (block.map (· ^^^ 0x5c) ++ digest (block.map (· ^^^ 0x36) ++ message))

end HybridTx.Sha256
