import HybridTx.Proofs.Bytes.Little
import HybridTx.Proofs.Hash.Streaming

/-! The permutation on numbers. A proof that evaluates a digest is quick where lanes are numbers, on
which the kernel computes at once, and slow where they are words. A step on numbers takes the lanes
as arguments and hands what it makes of them on to the step behind it. A block is a number too. -/

namespace HybridTx.Keccak

open Bytes

/-- What is made of the five lanes of a row. -/
abbrev OnRow (α : Type) := Nat → Nat → Nat → Nat → Nat → α

/-- What is made of all lanes, row by row. -/
abbrev OnLanes (α : Type) := OnRow (OnRow (OnRow (OnRow (OnRow α))))

section Steps

variable {α : Type}

def Plane.give (p : Plane) (next : OnRow α) : α :=
  next p.x0.toNat p.x1.toNat p.x2.toNat p.x3.toNat p.x4.toNat

/-- Hands the lanes of a state on. -/
def State.give (s : State) (next : OnLanes α) : α :=
  s.y4.give (s.y3.give (s.y2.give (s.y1.give (s.y0.give next))))

def turnNumber (lane amount : Nat) : Nat :=
  Nat.lor (Nat.mod (Nat.shiftLeft lane amount) 0x10000000000000000)
    (Nat.shiftRight lane (Nat.sub 64 amount))

def parityNumber (a b c d e : Nat) : Nat := Nat.xor (Nat.xor (Nat.xor a b) (Nat.xor c d)) e

def mixNumber (a b c : Nat) : Nat := Nat.xor a (Nat.land (Nat.sub 0xffffffffffffffff b) c)

def spreadNumbers (next : OnRow α) : OnRow α := fun a0 a1 a2 a3 a4 =>
  next (Nat.xor a4 (turnNumber a1 1)) (Nat.xor a0 (turnNumber a2 1)) (Nat.xor a1 (turnNumber a3 1))
    (Nat.xor a2 (turnNumber a4 1)) (Nat.xor a3 (turnNumber a0 1))

def diffuseNumbers (next : OnLanes α) : OnLanes α :=
  fun a0 a1 a2 a3 a4 b0 b1 b2 b3 b4 c0 c1 c2 c3 c4 d0 d1 d2 d3 d4 e0 e1 e2 e3 e4 =>
    spreadNumbers (fun s0 s1 s2 s3 s4 => next
        (Nat.xor a0 s0) (Nat.xor a1 s1) (Nat.xor a2 s2) (Nat.xor a3 s3) (Nat.xor a4 s4)
        (Nat.xor b0 s0) (Nat.xor b1 s1) (Nat.xor b2 s2) (Nat.xor b3 s3) (Nat.xor b4 s4)
        (Nat.xor c0 s0) (Nat.xor c1 s1) (Nat.xor c2 s2) (Nat.xor c3 s3) (Nat.xor c4 s4)
        (Nat.xor d0 s0) (Nat.xor d1 s1) (Nat.xor d2 s2) (Nat.xor d3 s3) (Nat.xor d4 s4)
        (Nat.xor e0 s0) (Nat.xor e1 s1) (Nat.xor e2 s2) (Nat.xor e3 s3) (Nat.xor e4 s4))
      (parityNumber a0 b0 c0 d0 e0) (parityNumber a1 b1 c1 d1 e1) (parityNumber a2 b2 c2 d2 e2)
      (parityNumber a3 b3 c3 d3 e3) (parityNumber a4 b4 c4 d4 e4)

def scatterNumbers (next : OnLanes α) : OnLanes α :=
  fun a0 a1 a2 a3 a4 b0 b1 b2 b3 b4 c0 c1 c2 c3 c4 d0 d1 d2 d3 d4 e0 e1 e2 e3 e4 => next
    a0 (turnNumber b1 44) (turnNumber c2 43) (turnNumber d3 21) (turnNumber e4 14)
    (turnNumber a3 28) (turnNumber b4 20) (turnNumber c0 3) (turnNumber d1 45) (turnNumber e2 61)
    (turnNumber a1 1) (turnNumber b2 6) (turnNumber c3 25) (turnNumber d4 8) (turnNumber e0 18)
    (turnNumber a4 27) (turnNumber b0 36) (turnNumber c1 10) (turnNumber d2 15) (turnNumber e3 56)
    (turnNumber a2 62) (turnNumber b3 55) (turnNumber c4 39) (turnNumber d0 41) (turnNumber e1 2)

def mixRow (next : OnRow α) : OnRow α := fun a0 a1 a2 a3 a4 =>
  next (mixNumber a0 a1 a2) (mixNumber a1 a2 a3) (mixNumber a2 a3 a4) (mixNumber a3 a4 a0)
    (mixNumber a4 a0 a1)

/-- Mixes every row, and adds the constant of a round. -/
def mixNumbers (constant : Nat) (next : OnLanes α) : OnLanes α :=
  mixRow fun a0 a1 a2 a3 a4 => mixRow fun b0 b1 b2 b3 b4 => mixRow fun c0 c1 c2 c3 c4 =>
    mixRow fun d0 d1 d2 d3 d4 => mixRow fun e0 e1 e2 e3 e4 => next
      (Nat.xor a0 constant) a1 a2 a3 a4 b0 b1 b2 b3 b4 c0 c1 c2 c3 c4 d0 d1 d2 d3 d4 e0 e1 e2 e3 e4

/-- The rounds with the given constants. -/
def roundNumbers (next : OnLanes α) : List Nat → OnLanes α
  | [] => next
  | constant :: constants =>
    diffuseNumbers (scatterNumbers (mixNumbers constant (roundNumbers next constants)))

end Steps

def State.ofNumbers : OnLanes State :=
  fun a0 a1 a2 a3 a4 b0 b1 b2 b3 b4 c0 c1 c2 c3 c4 d0 d1 d2 d3 d4 e0 e1 e2 e3 e4 =>
    ⟨⟨.ofNat a0, .ofNat a1, .ofNat a2, .ofNat a3, .ofNat a4⟩,
      ⟨.ofNat b0, .ofNat b1, .ofNat b2, .ofNat b3, .ofNat b4⟩,
      ⟨.ofNat c0, .ofNat c1, .ofNat c2, .ofNat c3, .ofNat c4⟩,
      ⟨.ofNat d0, .ofNat d1, .ofNat d2, .ofNat d3, .ofNat d4⟩,
      ⟨.ofNat e0, .ofNat e1, .ofNat e2, .ofNat e3, .ofNat e4⟩⟩

/-- The permutation, by way of numbers. -/
def permuteNumbers (s : State) : State :=
  s.give (roundNumbers .ofNumbers (State.roundConstants.map UInt64.toNat))

theorem toNat_turn (lane : UInt64) {amount : UInt64} (h : 0 < amount ∧ amount < 64) :
    (turn lane amount).toNat = turnNumber lane.toNat amount.toNat := by
  have hpos : 0 < amount.toNat := UInt64.lt_iff_toNat_lt.mp h.1
  have hlt : amount.toNat < 64 := UInt64.lt_iff_toNat_lt.mp h.2
  have hrest : (64 - amount).toNat = 64 - amount.toNat :=
    UInt64.toNat_sub_of_le _ _ (UInt64.le_iff_toNat_le.mpr (Nat.le_of_lt hlt))
  have hright : (64 - amount.toNat) % 64 = 64 - amount.toNat := Nat.mod_eq_of_lt (by omega)
  rw [turn, UInt64.toNat_or, UInt64.toNat_shiftLeft, UInt64.toNat_shiftRight, hrest, hright,
    Nat.mod_eq_of_lt hlt]
  rfl

theorem toNat_not (lane : UInt64) : (~~~lane).toNat = Nat.sub 0xffffffffffffffff lane.toNat :=
  UInt64.toNat_not lane

namespace State

variable {α : Type} (s : State) (next : OnLanes α)

theorem give_ofNumbers : s.give ofNumbers = s := by simp [give, Plane.give, ofNumbers]

theorem give_diffuse : s.diffuse.give next = s.give (diffuseNumbers next) := by
  simp (disch := decide) only [diffuse, give, Plane.give, Plane.xor, Plane.spread,
    UInt64.toNat_xor, toNat_turn]
  rfl

theorem give_scatter : s.scatter.give next = s.give (scatterNumbers next) := by
  simp (disch := decide) only [scatter, give, Plane.give, toNat_turn]
  rfl

theorem give_round (constant : UInt64) : (s.round constant).give next =
    s.give (diffuseNumbers (scatterNumbers (mixNumbers constant.toNat next))) := by
  rw [← give_diffuse, ← give_scatter]
  simp only [round, mix, give, Plane.give, Plane.mix, UInt64.toNat_xor, UInt64.toNat_and, toNat_not]
  rfl

theorem give_foldl_round (constants : List UInt64) : (constants.foldl round s).give next =
    s.give (roundNumbers next (constants.map UInt64.toNat)) := by
  induction constants generalizing s with
  | nil => rfl
  | cons constant constants ih =>
    rw [List.foldl_cons, ih, give_round, List.map_cons, roundNumbers]

theorem permute_eq : s.permute = permuteNumbers s := by
  rw [permuteNumbers, ← give_foldl_round, give_ofNumbers, permute]

end State

theorem putLane_eq (lane : UInt64) (bytes : Bytes) :
    putLane lane bytes = littleEndian 8 lane.toNat ++ bytes := by
  have hbyte : ∀ amount : UInt64, (lane >>> amount).toUInt8 =
      UInt8.ofNat (lane.toNat / 2 ^ (amount.toNat % 64)) := by
    intro amount
    apply UInt8.toNat_inj.mp
    rw [UInt64.toNat_toUInt8, UInt64.toNat_shiftRight, Nat.shiftRight_eq_div_pow,
      UInt8.toNat_ofNat']
  have hfirst : lane.toUInt8 = UInt8.ofNat lane.toNat := by
    apply UInt8.toNat_inj.mp
    rw [UInt64.toNat_toUInt8, UInt8.toNat_ofNat']
  rw [putLane, hfirst]
  simp only [hbyte, littleEndian, Nat.div_div_eq_div_mul]
  rfl

/-- A lane in front of others, all in one number. -/
def pushLane (lane lanes : Nat) : Nat := Nat.add lane (Nat.mul lanes 0x10000000000000000)

theorem littleToNat_putLane (lane : UInt64) (bytes : Bytes) :
    littleToNat (putLane lane bytes) = pushLane lane.toNat (littleToNat bytes) := by
  have hbase : 256 ^ 8 = 0x10000000000000000 := rfl
  have hlane : lane.toNat % 256 ^ 8 = lane.toNat := Nat.mod_eq_of_lt lane.toNat_lt
  rw [putLane_eq, littleToNat_append, littleToNat_littleEndian, length_littleEndian, hlane, hbase]
  rfl

/-- A lane that is read up to bit `bits`, and its value. -/
def ReadsTo (lane : UInt64) (bits value : Nat) : Prop := lane.toNat = value ∧ value < 2 ^ bits

theorem ReadsTo.next {lane : UInt64} {bits value : Nat} (h : ReadsTo lane bits value)
    (hbits : bits ≤ 56) (byte : UInt8) :
    ReadsTo (lane ||| byte.toUInt64 <<< UInt64.ofNat bits) (bits + 8)
      (value + byte.toNat * 2 ^ bits) := by
  obtain ⟨rfl, hlt⟩ := h
  have hbyte := byte.toNat_lt
  have hbound : lane.toNat + byte.toNat * 2 ^ bits < 2 ^ (bits + 8) := by
    rw [Nat.pow_add, Nat.mul_comm (2 ^ bits)]
    calc lane.toNat + byte.toNat * 2 ^ bits < 2 ^ bits + byte.toNat * 2 ^ bits := by omega
      _ = (byte.toNat + 1) * 2 ^ bits := by rw [Nat.add_mul, Nat.one_mul, Nat.add_comm]
      _ ≤ 2 ^ 8 * 2 ^ bits := Nat.mul_le_mul_right _ hbyte
  have hword : 2 ^ (bits + 8) ≤ 2 ^ 64 := Nat.pow_le_pow_right (by decide) (by omega)
  have hamount : (UInt64.ofNat bits).toNat % 64 = bits := by
    rw [UInt64.toNat_ofNat']
    omega
  refine ⟨?_, hbound⟩
  rw [UInt64.toNat_or, UInt64.toNat_shiftLeft, hamount, UInt8.toNat_toUInt64, Nat.shiftLeft_eq,
    Nat.mod_eq_of_lt (by omega), Nat.or_comm, Nat.mul_comm, ← Nat.two_pow_add_eq_or_of_lt hlt,
    Nat.add_comm]

theorem takeLane_eq {bytes : Bytes} (h : 8 ∣ bytes.length) :
    takeLane bytes = (UInt64.ofNat (littleToNat bytes), bytes.drop 8) := by
  match bytes, h with
  | [], _ => rfl
  | b0 :: b1 :: b2 :: b3 :: b4 :: b5 :: b6 :: b7 :: rest, _ =>
    have hstart : ReadsTo b0.toUInt64 8 b0.toNat := ⟨b0.toNat_toUInt64, b0.toNat_lt⟩
    have hlane := ((((((hstart.next (by decide) b1).next (by decide) b2).next (by decide)
      b3).next (by decide) b4).next (by decide) b5).next (by decide) b6).next (by decide) b7
    refine Prod.ext (UInt64.toNat_inj.mp ?_) rfl
    refine hlane.1.trans ?_
    rw [UInt64.toNat_ofNat']
    have hfits : _ < 2 ^ 64 := hlane.2
    simp only [littleToNat_cons]
    omega
  | [_], h | [_, _], h | [_, _, _], h | [_, _, _, _], h | [_, _, _, _, _], h
  | [_, _, _, _, _, _], h | [_, _, _, _, _, _, _], h => simp at h

def Plane.ofNumber (number : Nat) : Plane :=
  ⟨.ofNat number, .ofNat (Nat.shiftRight number 64), .ofNat (Nat.shiftRight number 128),
    .ofNat (Nat.shiftRight number 192), .ofNat (Nat.shiftRight number 256)⟩

/-- The state whose lanes stand in a number, the first lane lowest. -/
def State.ofNumber (number : Nat) : State :=
  ⟨.ofNumber number, .ofNumber (Nat.shiftRight number 320),
    .ofNumber (Nat.shiftRight number 640), .ofNumber (Nat.shiftRight number 960),
    .ofNumber (Nat.shiftRight number 1280)⟩

theorem littleToNat_drop (count : Nat) (bytes : Bytes) :
    littleToNat (bytes.drop count) = Nat.shiftRight (littleToNat bytes) (8 * count) := by
  rw [(littleToNat_take_drop count bytes).2]
  exact (Nat.pow_mul 2 8 count ▸ Nat.shiftRight_eq_div_pow _ _).symm

theorem dvd_length_drop {bytes : Bytes} (h : 8 ∣ bytes.length) (count : Nat) :
    8 ∣ (bytes.drop (8 * count)).length := by
  rw [List.length_drop]
  exact Nat.dvd_sub h (Nat.dvd_mul_right 8 count)

theorem takePlane_eq {bytes : Bytes} (h : 8 ∣ bytes.length) :
    takePlane bytes = (.ofNumber (littleToNat bytes), bytes.drop 40) := by
  have hlane : ∀ count, takeLane (bytes.drop (8 * count)) =
      (.ofNat (Nat.shiftRight (littleToNat bytes) (8 * (8 * count))),
        bytes.drop (8 * (count + 1))) := by
    intro count
    rw [takeLane_eq (dvd_length_drop h count), littleToNat_drop, List.drop_drop, Nat.mul_succ]
  have hfirst := hlane 0
  rw [Nat.mul_zero, List.drop_zero] at hfirst
  simp only [takePlane, hfirst, hlane]
  rfl

theorem ofBytes_eq {bytes : Bytes} (h : 8 ∣ bytes.length) :
    State.ofBytes bytes = .ofNumber (littleToNat bytes) := by
  have hplane : ∀ count, takePlane (bytes.drop (8 * (5 * count))) =
      (.ofNumber (Nat.shiftRight (littleToNat bytes) (8 * (8 * (5 * count)))),
        bytes.drop (8 * (5 * (count + 1)))) := by
    intro count
    rw [takePlane_eq (dvd_length_drop h _), littleToNat_drop, List.drop_drop, Nat.mul_succ 5,
      Nat.mul_add]
  have hfirst := hplane 0
  rw [Nat.mul_zero, List.drop_zero] at hfirst
  simp only [State.ofBytes, hfirst, hplane]
  rfl

/-- The lanes of a row in front of others, all in one number. -/
def pushRow (lanes : Nat) : OnRow Nat := fun a0 a1 a2 a3 a4 =>
  pushLane a0 (pushLane a1 (pushLane a2 (pushLane a3 (pushLane a4 lanes))))

/-- The lanes of a state as one number, the first lane lowest. -/
def State.number (s : State) : Nat := s.give
  fun a0 a1 a2 a3 a4 b0 b1 b2 b3 b4 c0 c1 c2 c3 c4 d0 d1 d2 d3 d4 e0 e1 e2 e3 e4 =>
    pushRow (pushRow (pushRow (pushRow (pushRow 0 e0 e1 e2 e3 e4) d0 d1 d2 d3 d4)
      c0 c1 c2 c3 c4) b0 b1 b2 b3 b4) a0 a1 a2 a3 a4

theorem littleToNat_toBytes (s : State) : littleToNat s.toBytes = s.number := by
  simp only [State.toBytes, putPlane, littleToNat_putLane]
  rfl

namespace Sponge

variable (sponge : Sponge)

/-- Absorbs a message of at most `blocks` whole blocks and closes it. -/
def absorbNumbers : (blocks : Nat) → State → Bytes → State
  | 0, state, message => permuteNumbers (state.xor (.ofNumber (littleToNat (sponge.pad message))))
  | blocks + 1, state, message =>
    if message.length < sponge.rate then
      permuteNumbers (state.xor (.ofNumber (littleToNat (sponge.pad message))))
    else
      absorbNumbers blocks
        (permuteNumbers (state.xor (.ofNumber (littleToNat (message.take sponge.rate)))))
        (message.drop sponge.rate)

def squeezeNumbers : (blocks : Nat) → State → Bytes
  | 0, _ => []
  | blocks + 1, state =>
    littleEndian sponge.rate state.number ++ squeezeNumbers blocks (permuteNumbers state)

/-- The output for a message, by way of numbers. -/
def outputNumbers (count : Nat) (message : Bytes) : Bytes :=
  (sponge.squeezeNumbers ((count + sponge.rate - 1) / sponge.rate)
    (sponge.absorbNumbers (message.length / sponge.rate) .zero message)).take count

/-- The blocks of output as one number. -/
def squeezeNumber : (blocks : Nat) → State → Nat
  | 0, _ => 0
  | blocks + 1, state =>
    Nat.add (Nat.mod state.number (Nat.pow 256 sponge.rate))
      (Nat.mul (squeezeNumber blocks (permuteNumbers state)) (Nat.pow 256 sponge.rate))

/-- The blocks of output for a message that hold `count` bytes, as one number. -/
def outputNumber (count : Nat) (message : Bytes) : Nat :=
  sponge.squeezeNumber ((count + sponge.rate - 1) / sponge.rate)
    (sponge.absorbNumbers (message.length / sponge.rate) .zero message)

/-- Blocks are made of lanes, and no longer than a state. -/
def InLanes : Prop := 8 ∣ sponge.rate ∧ sponge.rate ≤ 200

instance : Decidable sponge.InLanes := instDecidableAnd

variable {sponge}

theorem outputBlock_eq (h : sponge.InLanes) (state : State) :
    sponge.outputBlock state = littleEndian sponge.rate state.number := by
  have hblock := littleEndian_littleToNat (sponge.outputBlock state)
  rw [length_outputBlock h.2] at hblock
  rw [← hblock, outputBlock, (littleToNat_take_drop _ _).1, littleEndian_mod, littleToNat_toBytes]

theorem absorbBlock_eq (h : sponge.InLanes) (state : State) {block : Bytes}
    (hblock : block.length = sponge.rate) :
    absorbBlock state block = permuteNumbers (state.xor (.ofNumber (littleToNat block))) := by
  rw [absorbBlock, ofBytes_eq (hblock ▸ h.1), State.permute_eq]

theorem absorbNumbers_eq (h : sponge.InLanes) {blocks : Nat} {message : Bytes}
    (hlength : message.length < (blocks + 1) * sponge.rate) (state : State) :
    sponge.absorbNumbers blocks state message =
      absorbBlock (sponge.absorbBlocks state message).1
        (sponge.pad (sponge.absorbBlocks state message).2) := by
  induction blocks generalizing state message with
  | zero =>
    rw [Nat.zero_add, Nat.one_mul] at hlength
    rw [absorbNumbers, absorbBlocks_short state hlength, absorbBlock_eq h _ (length_pad hlength)]
  | succ blocks ih =>
    rw [absorbNumbers]
    split
    · next hshort =>
      rw [absorbBlocks_short state hshort, absorbBlock_eq h _ (length_pad hshort)]
    · next hlong =>
      have hblock : (message.take sponge.rate).length = sponge.rate :=
        List.length_take_of_le (Nat.le_of_not_lt hlong)
      have hrest : (message.drop sponge.rate).length < (blocks + 1) * sponge.rate := by
        rw [List.length_drop]
        rw [Nat.add_one_mul (blocks + 1)] at hlength
        omega
      have hcut := absorbBlocks_cons state hblock (message.drop sponge.rate)
      rw [List.take_append_drop, absorbBlock_eq h _ hblock] at hcut
      rw [ih hrest, hcut]

theorem squeezeNumbers_eq (h : sponge.InLanes) (blocks : Nat) (state : State) :
    sponge.squeezeNumbers blocks state = sponge.squeeze blocks state := by
  induction blocks generalizing state with
  | zero => rfl
  | succ blocks ih => rw [squeezeNumbers, squeeze, ih, State.permute_eq, outputBlock_eq h]

theorem littleToNat_squeeze (h : sponge.InLanes) (blocks : Nat) (state : State) :
    littleToNat (sponge.squeeze blocks state) = sponge.squeezeNumber blocks state := by
  induction blocks generalizing state with
  | zero => rfl
  | succ blocks ih =>
    rw [squeeze, littleToNat_append, outputBlock_eq h, littleToNat_littleEndian,
      length_littleEndian, ih, State.permute_eq]
    rfl

theorem absorb_eq (h : sponge.InLanes) (message : Bytes) :
    sponge.absorb message =
      sponge.absorbNumbers (message.length / sponge.rate) .zero message := by
  have hblocks : message.length < (message.length / sponge.rate + 1) * sponge.rate := by
    rw [Nat.mul_comm]
    exact Nat.lt_mul_div_succ message.length sponge.rate_pos
  rw [absorbNumbers_eq h hblocks]
  rfl

theorem output_eq (h : sponge.InLanes) (count : Nat) (message : Bytes) :
    sponge.output count message = sponge.outputNumbers count message := by
  rw [output, outputNumbers, squeezeNumbers_eq h, absorb_eq h]

theorem littleToNat_output (h : sponge.InLanes) (count : Nat) (message : Bytes) :
    littleToNat (sponge.output count message) =
      sponge.outputNumber count message % 256 ^ count := by
  rw [output, outputNumber, (littleToNat_take_drop _ _).1, littleToNat_squeeze h, absorb_eq h]

end Sponge

end HybridTx.Keccak
