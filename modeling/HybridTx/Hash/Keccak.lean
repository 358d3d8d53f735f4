import HybridTx.Bytes.Basic

/-! The Keccak-f[1600] permutation. The state is five planes of five lanes; lane `x` of plane `y` is
the lane at column `x` and row `y`. -/

namespace HybridTx.Keccak

/-- Five lanes of one row. -/
structure Plane where
  (x0 x1 x2 x3 x4 : UInt64)
deriving DecidableEq

/-- Five planes of lanes. -/
structure State where
  (y0 y1 y2 y3 y4 : Plane)
deriving DecidableEq

/-- Turns a lane left by `amount` bits, for `0 < amount < 64`. -/
@[inline] def turn (lane amount : UInt64) : UInt64 := lane <<< amount ||| lane >>> (64 - amount)

namespace Plane

/-- All lanes zero. -/
def zero : Plane := ⟨0, 0, 0, 0, 0⟩

/-- Adds lane by lane. -/
@[inline] def xor (p q : Plane) : Plane :=
  ⟨p.x0 ^^^ q.x0, p.x1 ^^^ q.x1, p.x2 ^^^ q.x2, p.x3 ^^^ q.x3, p.x4 ^^^ q.x4⟩

/-- From the parities of the columns, what each column adds to its lanes: the parity of the column
before it and the turned parity of the column after it. -/
@[inline] def spread (c : Plane) : Plane :=
  ⟨c.x4 ^^^ turn c.x1 1, c.x0 ^^^ turn c.x2 1, c.x1 ^^^ turn c.x3 1, c.x2 ^^^ turn c.x4 1,
    c.x3 ^^^ turn c.x0 1⟩

/-- The nonlinear step on a row. -/
@[inline] def mix (p : Plane) : Plane :=
  ⟨p.x0 ^^^ (~~~p.x1 &&& p.x2), p.x1 ^^^ (~~~p.x2 &&& p.x3), p.x2 ^^^ (~~~p.x3 &&& p.x4),
    p.x3 ^^^ (~~~p.x4 &&& p.x0), p.x4 ^^^ (~~~p.x0 &&& p.x1)⟩

end Plane

namespace State

/-- All lanes zero. -/
def zero : State := ⟨.zero, .zero, .zero, .zero, .zero⟩

/-- Adds lane by lane. -/
@[inline] def xor (s t : State) : State :=
  ⟨s.y0.xor t.y0, s.y1.xor t.y1, s.y2.xor t.y2, s.y3.xor t.y3, s.y4.xor t.y4⟩

/-- Adds to every lane the parities of two neighbouring columns. -/
@[inline] def diffuse (s : State) : State :=
  let d := ((s.y0.xor s.y1).xor (s.y2.xor s.y3) |>.xor s.y4).spread
  ⟨s.y0.xor d, s.y1.xor d, s.y2.xor d, s.y3.xor d, s.y4.xor d⟩

/-- Turns every lane by its own amount and moves it: the lane that arrives at `(x, y)` comes from
`(x + 3 * y, x)`, modulo five. -/
@[inline] def scatter (s : State) : State :=
  ⟨⟨s.y0.x0, turn s.y1.x1 44, turn s.y2.x2 43, turn s.y3.x3 21, turn s.y4.x4 14⟩,
    ⟨turn s.y0.x3 28, turn s.y1.x4 20, turn s.y2.x0 3, turn s.y3.x1 45, turn s.y4.x2 61⟩,
    ⟨turn s.y0.x1 1, turn s.y1.x2 6, turn s.y2.x3 25, turn s.y3.x4 8, turn s.y4.x0 18⟩,
    ⟨turn s.y0.x4 27, turn s.y1.x0 36, turn s.y2.x1 10, turn s.y3.x2 15, turn s.y4.x3 56⟩,
    ⟨turn s.y0.x2 62, turn s.y1.x3 55, turn s.y2.x4 39, turn s.y3.x0 41, turn s.y4.x1 2⟩⟩

/-- Mixes every row. -/
@[inline] def mix (s : State) : State := ⟨s.y0.mix, s.y1.mix, s.y2.mix, s.y3.mix, s.y4.mix⟩

/-- One round with its constant. -/
def round (s : State) (constant : UInt64) : State :=
  let t := s.diffuse.scatter.mix
  { t with y0 := { t.y0 with x0 := t.y0.x0 ^^^ constant } }

/-- The constants of the 24 rounds. -/
def roundConstants : List UInt64 :=
  [0x0000000000000001, 0x0000000000008082, 0x800000000000808a, 0x8000000080008000,
    0x000000000000808b, 0x0000000080000001, 0x8000000080008081, 0x8000000000008009,
    0x000000000000008a, 0x0000000000000088, 0x0000000080008009, 0x000000008000000a,
    0x000000008000808b, 0x800000000000008b, 0x8000000000008089, 0x8000000000008003,
    0x8000000000008002, 0x8000000000000080, 0x000000000000800a, 0x800000008000000a,
    0x8000000080008081, 0x8000000000008080, 0x0000000080000001, 0x8000000080008008]

/-- The permutation. -/
def permute (s : State) : State := roundConstants.foldl round s

end State

/-- The little-endian lane at the front of a byte string, and the bytes behind it. A rest of fewer
than eight bytes is no lane and reads as zero. -/
def takeLane : Bytes → UInt64 × Bytes
  | b0 :: b1 :: b2 :: b3 :: b4 :: b5 :: b6 :: b7 :: rest =>
    (b0.toUInt64 ||| b1.toUInt64 <<< 8 ||| b2.toUInt64 <<< 16 ||| b3.toUInt64 <<< 24
      ||| b4.toUInt64 <<< 32 ||| b5.toUInt64 <<< 40 ||| b6.toUInt64 <<< 48 ||| b7.toUInt64 <<< 56,
      rest)
  | _ => (0, [])

/-- The five lanes at the front of a byte string, and the bytes behind them. -/
def takePlane (bytes : Bytes) : Plane × Bytes :=
  let (x0, bytes) := takeLane bytes
  let (x1, bytes) := takeLane bytes
  let (x2, bytes) := takeLane bytes
  let (x3, bytes) := takeLane bytes
  let (x4, bytes) := takeLane bytes
  (⟨x0, x1, x2, x3, x4⟩, bytes)

/-- A byte string of at most 200 bytes, a multiple of eight, as a state; the other lanes are
zero. -/
def State.ofBytes (bytes : Bytes) : State :=
  let (y0, bytes) := takePlane bytes
  let (y1, bytes) := takePlane bytes
  let (y2, bytes) := takePlane bytes
  let (y3, bytes) := takePlane bytes
  let (y4, _) := takePlane bytes
  ⟨y0, y1, y2, y3, y4⟩

/-- Writes the eight bytes of a lane in front of a byte string. -/
def putLane (lane : UInt64) (bytes : Bytes) : Bytes :=
  lane.toUInt8 :: (lane >>> 8).toUInt8 :: (lane >>> 16).toUInt8 :: (lane >>> 24).toUInt8
    :: (lane >>> 32).toUInt8 :: (lane >>> 40).toUInt8 :: (lane >>> 48).toUInt8
    :: (lane >>> 56).toUInt8 :: bytes

/-- Writes the lanes of a plane in front of a byte string. -/
def putPlane (p : Plane) (bytes : Bytes) : Bytes :=
  putLane p.x0 (putLane p.x1 (putLane p.x2 (putLane p.x3 (putLane p.x4 bytes))))

/-- The 200 bytes of a state. -/
def State.toBytes (s : State) : Bytes :=
  putPlane s.y0 (putPlane s.y1 (putPlane s.y2 (putPlane s.y3 (putPlane s.y4 []))))

@[simp] theorem length_putLane (lane : UInt64) (bytes : Bytes) :
    (putLane lane bytes).length = bytes.length + 8 := rfl

@[simp] theorem length_putPlane (p : Plane) (bytes : Bytes) :
    (putPlane p bytes).length = bytes.length + 40 := by simp [putPlane]

@[simp] theorem State.length_toBytes (s : State) : s.toBytes.length = 200 := by simp [toBytes]

end HybridTx.Keccak
