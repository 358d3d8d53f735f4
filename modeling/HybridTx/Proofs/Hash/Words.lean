import Mathlib.Data.List.GetD
import HybridTx.Hash.Sha256
import HybridTx.Proofs.Bytes.Digits
import HybridTx.Proofs.Dilithium.Digits

/-! SHA-256 on numbers, for proofs that evaluate a keyed digest. The words of a schedule are the
digits of one number, the latest word lowest, and a round hands the working words on. -/

namespace HybridTx.Sha256

open Dilithium

/-- What is made of the eight working words. -/
abbrev OnWords (α : Type) := Nat → Nat → Nat → Nat → Nat → Nat → Nat → Nat → α

section Steps

variable {α : Type}

/-- Hands the working words on. -/
def Words.give (w : Words) (next : OnWords α) : α :=
  next w.a.toNat w.b.toNat w.c.toNat w.d.toNat w.e.toNat w.f.toNat w.g.toNat w.h.toNat

def addNumber (x y : Nat) : Nat := Nat.mod (Nat.add x y) 0x100000000

def turnNumber (word amount : Nat) : Nat :=
  Nat.lor (Nat.shiftRight word amount)
    (Nat.mod (Nat.shiftLeft word (Nat.sub 32 amount)) 0x100000000)

def turnsNumber (word i j k : Nat) : Nat :=
  Nat.xor (Nat.xor (turnNumber word i) (turnNumber word j)) (turnNumber word k)

def choiceNumber (e f g : Nat) : Nat :=
  Nat.xor (Nat.land e f) (Nat.land (Nat.sub 0xffffffff e) g)

def majorityNumber (a b c : Nat) : Nat :=
  Nat.xor (Nat.xor (Nat.land a b) (Nat.land a c)) (Nat.land b c)

/-- The end of a round, from the sum that enters two words. -/
def shareNumber (next : OnWords α) (sum : Nat) : OnWords α := fun a b c d e f g _ =>
  next (addNumber sum (addNumber (turnsNumber a 2 13 22) (majorityNumber a b c))) a b c
    (addNumber d sum) e f g

def roundNumber (next : OnWords α) (word constant : Nat) : OnWords α := fun a b c d e f g h =>
  shareNumber next (addNumber (addNumber (addNumber (addNumber h (turnsNumber e 6 11 25))
    (choiceNumber e f g)) constant) word) a b c d e f g h

/-- The rounds with the last `count` words of a schedule. -/
def roundNumbers (next : OnWords α) (words : Nat) : (count : Nat) → List Nat → OnWords α
  | count + 1, constant :: constants =>
    roundNumber (roundNumbers next words count constants) (digit 32 count words) constant
  | _, _ => next

def mixNumber (w2 w7 w15 w16 : Nat) : Nat :=
  addNumber (addNumber (addNumber
    (Nat.xor (Nat.xor (turnNumber w2 17) (turnNumber w2 19)) (Nat.shiftRight w2 10)) w7)
    (Nat.xor (Nat.xor (turnNumber w15 7) (turnNumber w15 18)) (Nat.shiftRight w15 3))) w16

/-- The next word of a schedule. -/
def nextNumber (words : Nat) : Nat :=
  mixNumber (digit 32 1 words) (digit 32 6 words) (digit 32 14 words) (digit 32 15 words)

/-- A word in front of others. -/
def pushWord (word words : Nat) : Nat := Nat.add word (Nat.mul 0x100000000 words)

def extendNumbers : (count words : Nat) → Nat
  | 0, words => words
  | count + 1, words => extendNumbers count (pushWord (nextNumber words) words)

end Steps

def Words.ofNumbers : OnWords Words := fun a b c d e f g h =>
  ⟨.ofNat a, .ofNat b, .ofNat c, .ofNat d, .ofNat e, .ofNat f, .ofNat g, .ofNat h⟩

/-- `compress`, by way of numbers. -/
def compressNumbers (w : Words) (block : Bytes) : Words :=
  w.add (w.give (roundNumbers .ofNumbers (extendNumbers 48 block.toNat) 64
    (roundConstants.map UInt32.toNat)))

def compressBlocksNumbers : (count : Nat) → Words → Bytes → Words
  | 0, w, _ => w
  | count + 1, w, bytes =>
    compressBlocksNumbers count (compressNumbers w (bytes.take 64)) (bytes.drop 64)

/-- The digest of a message, by way of numbers. -/
def digestNumbers (message : Bytes) : Bytes :=
  (compressBlocksNumbers ((pad message).length / 64) .initial (pad message)).toBytes

/-- The keyed digest of a message, by way of numbers. -/
def hmacNumbers (key message : Bytes) : Bytes :=
  let block := key ++ List.replicate (64 - key.length) 0
  digestNumbers (block.map (· ^^^ 0x5c) ++ digestNumbers (block.map (· ^^^ 0x36) ++ message))

section Rounds

variable {α : Type} (next : OnWords α)

theorem toNat_add (x y : UInt32) : (x + y).toNat = addNumber x.toNat y.toNat :=
  UInt32.toNat_add x y

theorem toNat_not (word : UInt32) : (~~~word).toNat = Nat.sub 0xffffffff word.toNat :=
  UInt32.toNat_not word

theorem toNat_turn (word : UInt32) {amount : UInt32} (h : 0 < amount ∧ amount < 32) :
    (turn word amount).toNat = turnNumber word.toNat amount.toNat := by
  have hpos : 0 < amount.toNat := UInt32.lt_iff_toNat_lt.mp h.1
  have hlt : amount.toNat < 32 := UInt32.lt_iff_toNat_lt.mp h.2
  have hrest : (32 - amount).toNat = 32 - amount.toNat :=
    UInt32.toNat_sub_of_le _ _ (UInt32.le_iff_toNat_le.mpr (Nat.le_of_lt hlt))
  have hleft : (32 - amount.toNat) % 32 = 32 - amount.toNat := Nat.mod_eq_of_lt (by omega)
  rw [turn, UInt32.toNat_or, UInt32.toNat_shiftRight, UInt32.toNat_shiftLeft, hrest, hleft,
    Nat.mod_eq_of_lt hlt]
  rfl

theorem give_round (w : Words) (word constant : UInt32) : (w.round word constant).give next =
    w.give (roundNumber next word.toNat constant.toNat) := by
  simp (disch := decide) only [Words.round, Words.give, toNat_add, UInt32.toNat_xor,
    UInt32.toNat_and, toNat_not, toNat_turn]
  rfl

theorem give_ofNumbers (w : Words) : w.give Words.ofNumbers = w := by
  simp [Words.give, Words.ofNumbers]

/-- The words of a schedule as one number, the latest lowest. -/
def stackWords (latest : List UInt32) : Nat := gather 32 (latest.map UInt32.toNat)

theorem stackWords_cons (word : UInt32) (latest : List UInt32) :
    stackWords (word :: latest) = pushWord word.toNat (stackWords latest) := by
  have hbase : 2 ^ 32 = 0x100000000 := rfl
  rw [stackWords, List.map_cons, gather_cons, hbase, Nat.mul_comm]
  rfl

theorem digit_stackWords (latest : List UInt32) (place : Nat) :
    digit 32 place (stackWords latest) = (latest.getD place 0).toNat := by
  have hsmall : ∀ value ∈ latest.map UInt32.toNat, value < 2 ^ 32 := by
    intro value hvalue
    obtain ⟨word, -, rfl⟩ := List.mem_map.mp hvalue
    exact word.toNat_lt
  rw [stackWords, digit_gather hsmall, ← UInt32.toNat_zero, List.getD_map]

theorem toNat_nextWord (latest : List UInt32) :
    (nextWord latest).toNat = nextNumber (stackWords latest) := by
  rw [nextNumber, digit_stackWords, digit_stackWords, digit_stackWords, digit_stackWords]
  simp (disch := decide) only [nextWord, toNat_add, UInt32.toNat_xor, toNat_turn,
    UInt32.toNat_shiftRight]
  rfl

theorem stackWords_extendSchedule (count : Nat) (latest : List UInt32) :
    stackWords (extendSchedule count latest) = extendNumbers count (stackWords latest) := by
  induction count generalizing latest with
  | zero => rfl
  | succ count ih =>
    rw [extendSchedule, ih, extendNumbers, stackWords_cons, toNat_nextWord]

theorem give_rounds (latest : List UInt32) {count : Nat} (hcount : count ≤ latest.length)
    (constants : List UInt32) (w : Words) :
    ((List.zip (latest.take count).reverse constants).foldl
        (fun v (word, c) => v.round word c) w).give next =
      w.give (roundNumbers next (stackWords latest) count (constants.map UInt32.toNat)) := by
  induction count generalizing constants w with
  | zero => rfl
  | succ count ih =>
    cases constants with
    | nil => rw [List.zip_nil_right]; rfl
    | cons constant constants =>
      rw [List.take_succ_eq_append_getElem hcount, List.reverse_append, List.reverse_singleton,
        List.singleton_append, List.zip_cons_cons, List.foldl_cons, ih (Nat.le_of_succ_le hcount),
        give_round, List.map_cons, roundNumbers, digit_stackWords, List.getD_eq_getElem _ _ hcount]

end Rounds

theorem toNat_shiftLeft_byte (byte : UInt8) {amount : UInt32} (h : amount.toNat ≤ 24) :
    (byte.toUInt32 <<< amount).toNat = byte.toNat * 2 ^ amount.toNat := by
  have hbyte := byte.toNat_lt
  have hfits : byte.toNat * 2 ^ amount.toNat < 2 ^ 32 := by
    calc byte.toNat * 2 ^ amount.toNat
        ≤ byte.toNat * 2 ^ 24 := Nat.mul_le_mul_left _ (Nat.pow_le_pow_right (by decide) h)
      _ < 2 ^ 32 := by omega
  rw [UInt32.toNat_shiftLeft, UInt8.toNat_toUInt32, Nat.mod_eq_of_lt (by omega : _ < 32),
    Nat.shiftLeft_eq, Nat.mod_eq_of_lt hfits]

/-- A byte behind others fills the bits that they leave. -/
theorem mul_or_eq_add {low bits : Nat} (h : low < 2 ^ bits) (high : Nat) :
    high * 2 ^ bits ||| low = high * 2 ^ bits + low := by
  rw [Nat.mul_comm, ← Nat.two_pow_add_eq_or_of_lt h]

theorem toNat_word (b0 b1 b2 b3 : UInt8) :
    (b0.toUInt32 <<< 24 ||| b1.toUInt32 <<< 16 ||| b2.toUInt32 <<< 8 ||| b3.toUInt32).toNat =
      b0.toNat * 2 ^ 24 + b1.toNat * 2 ^ 16 + b2.toNat * 2 ^ 8 + b3.toNat := by
  have h1 := b1.toNat_lt
  have h2 := b2.toNat_lt
  have hfirst := mul_or_eq_add (by omega : b1.toNat * 2 ^ 16 < 2 ^ 24) b0.toNat
  have hsecond := mul_or_eq_add (by omega : b2.toNat * 2 ^ 8 < 2 ^ 16)
    (b0.toNat * 2 ^ 8 + b1.toNat)
  have hthird := mul_or_eq_add b3.toNat_lt (b0.toNat * 2 ^ 16 + b1.toNat * 2 ^ 8 + b2.toNat)
  have hsplit : b0.toNat * 2 ^ 24 + b1.toNat * 2 ^ 16 = (b0.toNat * 2 ^ 8 + b1.toNat) * 2 ^ 16 := by
    ring
  have hsplit' : (b0.toNat * 2 ^ 8 + b1.toNat) * 2 ^ 16 + b2.toNat * 2 ^ 8 =
      (b0.toNat * 2 ^ 16 + b1.toNat * 2 ^ 8 + b2.toNat) * 2 ^ 8 := by ring
  have hshift0 : (b0.toUInt32 <<< 24).toNat = b0.toNat * 2 ^ 24 :=
    toNat_shiftLeft_byte b0 (by decide)
  have hshift1 : (b1.toUInt32 <<< 16).toNat = b1.toNat * 2 ^ 16 :=
    toNat_shiftLeft_byte b1 (by decide)
  have hshift2 : (b2.toUInt32 <<< 8).toNat = b2.toNat * 2 ^ 8 :=
    toNat_shiftLeft_byte b2 (by decide)
  rw [UInt32.toNat_or, UInt32.toNat_or, UInt32.toNat_or, hshift0, hshift1, hshift2,
    UInt8.toNat_toUInt32, hfirst, hsplit, hsecond, hsplit', hthird]

/-- The words of a block are the digits of its value, the last word lowest. -/
theorem wordsOfBytes_spec {bytes : Bytes} (h : 4 ∣ bytes.length) :
    4 * (wordsOfBytes bytes).length = bytes.length ∧
      stackWords (wordsOfBytes bytes).reverse = bytes.toNat := by
  fun_induction wordsOfBytes bytes with
  | case1 b0 b1 b2 b3 rest ih =>
    have hrest : 4 ∣ rest.length := (Nat.dvd_add_left (dvd_refl 4)).mp h
    obtain ⟨hlength, hwords⟩ := ih hrest
    have hpow : 256 ^ rest.length = 2 ^ (32 * (wordsOfBytes rest).reverse.length) := by
      rw [← hlength, List.length_reverse, Nat.pow_mul, Nat.pow_mul]
    refine ⟨by simp only [List.length_cons]; omega, ?_⟩
    rw [List.reverse_cons, stackWords, List.map_append, gather_append, List.length_map, ← hpow,
      ← stackWords, hwords]
    simp only [List.map_cons, List.map_nil, toNat_word, Bytes.toNat_cons, List.length_cons]
    simp [gather]
    ring
  | case2 bytes hshort =>
    obtain _ | ⟨b0, _ | ⟨b1, _ | ⟨b2, _ | ⟨b3, rest⟩⟩⟩⟩ := bytes
    · exact ⟨rfl, rfl⟩
    · simp at h
    · simp at h
    · simp at h
    · exact (hshort b0 b1 b2 b3 rest rfl).elim

theorem length_extendSchedule (count : Nat) (latest : List UInt32) :
    (extendSchedule count latest).length = count + latest.length := by
  induction count generalizing latest with
  | zero => exact (Nat.zero_add _).symm
  | succ count ih =>
    rw [extendSchedule, ih, List.length_cons]
    omega

theorem compress_eq (w : Words) {block : Bytes} (h : block.length = 64) :
    compress w block = compressNumbers w block := by
  obtain ⟨hlength, hwords⟩ := wordsOfBytes_spec (h ▸ (by decide : 4 ∣ 64))
  have hschedule : (extendSchedule 48 (wordsOfBytes block).reverse).length = 64 := by
    rw [length_extendSchedule, List.length_reverse]
    omega
  have hrounds := give_rounds Words.ofNumbers (extendSchedule 48 (wordsOfBytes block).reverse)
    hschedule.ge roundConstants w
  rw [give_ofNumbers, List.take_of_length_le hschedule.le, stackWords_extendSchedule, hwords]
    at hrounds
  rw [compress, compressNumbers, schedule, hrounds]

theorem compressBlocks_eq (count : Nat) (w : Words) {bytes : Bytes}
    (h : 64 * count ≤ bytes.length) :
    compressBlocks count w bytes = compressBlocksNumbers count w bytes := by
  induction count generalizing w bytes with
  | zero => rfl
  | succ count ih =>
    have hblock : (bytes.take 64).length = 64 := List.length_take_of_le (by omega)
    have hrest : 64 * count ≤ (bytes.drop 64).length := by rw [List.length_drop]; omega
    rw [compressBlocks, compressBlocksNumbers, compress_eq w hblock, ih _ hrest]

theorem digest_eq : digest = digestNumbers := by
  funext message
  rw [digest, digestNumbers, compressBlocks_eq _ _ (Nat.mul_div_le _ 64)]

theorem hmac_eq : hmac = hmacNumbers := by
  funext key message
  rw [hmac, hmacNumbers, digest_eq]

end HybridTx.Sha256
