import HybridTx.Arithmetic.Modular

/-! The curve y² = x³ + 7 over the field of `fieldPrime` elements, and the group of its points. -/

namespace HybridTx.Secp256k1

/-- The number of field elements. -/
def fieldPrime : Nat := 0xfffffffffffffffffffffffffffffffffffffffffffffffffffffffefffffc2f

/-- The number of points of the group. -/
def groupOrder : Nat := 0xfffffffffffffffffffffffffffffffebaaedce6af48a03bbfd25e8cd0364141

/-- A point of the group. -/
inductive Point
  | infinity
  | affine (x y : Nat)
deriving DecidableEq, Repr

/-- The point that generates the group. -/
def generator : Point :=
  .affine 0x79be667ef9dcbbac55a06295ce870b07029bfcdb2dce28d959f2815b16f81798
    0x483ada7726a3c4655da4fbfc0e1108a8fd17b448a68554199c47d08ffb10d4b8

namespace Point

/-- The third point on the line of `slope` through two points, reflected. -/
def third (slope x1 y1 x2 : Nat) : Point :=
  let x := subMod fieldPrime (subMod fieldPrime (slope * slope % fieldPrime) x1) x2
  .affine x (subMod fieldPrime (slope * subMod fieldPrime x1 x % fieldPrime) y1)

/-- The sum of a point and itself. -/
def double : Point → Point
  | infinity => infinity
  | affine x y =>
    if y = 0 then infinity
    else third (3 * x * x * inverse fieldPrime (2 * y) % fieldPrime) x y x

/-- The sum of two points. -/
def add : Point → Point → Point
  | infinity, q => q
  | p, infinity => p
  | affine x1 y1, affine x2 y2 =>
    if x1 = x2 then if y1 = y2 then double (affine x1 y1) else infinity
    else
      third (subMod fieldPrime y2 y1 * inverse fieldPrime (subMod fieldPrime x2 x1) % fieldPrime)
        x1 y1 x2

/-- The multiple of a point by a number of at most `width` bits. -/
def mulBits (p : Point) : (width : Nat) → (scalar : Nat) → Point
  | 0, _ => infinity
  | width + 1, scalar =>
    let twice := (mulBits p width (scalar / 2)).double
    if scalar % 2 = 1 then twice.add p else twice

/-- The multiple of a point by a number. -/
def mul (scalar : Nat) (p : Point) : Point := mulBits p (bitLength scalar) scalar

end Point

/-- The square root of a field element whose parity is given, if it has a square root. -/
def sqrtWithParity? (value : Nat) (odd : Bool) : Option Nat :=
  let root := powMod fieldPrime value ((fieldPrime + 1) / 4)
  if root * root % fieldPrime = value % fieldPrime then
    if (root % 2 == 1) == odd then some root else some (subMod fieldPrime 0 root)
  else none

/-- The point with a given x and the parity of y, if there is one. -/
def lift? (x : Nat) (odd : Bool) : Option Point :=
  (sqrtWithParity? (x * x * x + 7) odd).map (Point.affine x)

end HybridTx.Secp256k1
