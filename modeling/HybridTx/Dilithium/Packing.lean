import HybridTx.Dilithium.Ring

/-! Polynomials as bytes: each coefficient takes a fixed number of bits, lowest bit first, so eight
coefficients take as many bytes as one takes bits. -/

namespace HybridTx.Dilithium

/-- The number whose digits in base `2 ^ width` are `values`, lowest first. -/
def gather (width : Nat) (values : List Nat) : Nat :=
  values.foldr (fun value number => value + number <<< width) 0

/-- The first `count` digits of a number in base `2 ^ width`. -/
def scatter (width : Nat) : (count : Nat) → (number : Nat) → List Nat
  | 0, _ => []
  | count + 1, number => number % 2 ^ width :: scatter width count (number >>> width)

/-- Packs `groups` groups of eight values. -/
def packGroups (width : Nat) : (groups : Nat) → List Nat → Bytes
  | 0, _ => []
  | groups + 1, values =>
    Bytes.littleEndian width (gather width (values.take 8))
      ++ packGroups width groups (values.drop 8)

/-- Unpacks `groups` groups of eight values. -/
def unpackGroups (width : Nat) : (groups : Nat) → Bytes → List Nat
  | 0, _ => []
  | groups + 1, bytes =>
    scatter width 8 (Bytes.littleToNat (bytes.take width))
      ++ unpackGroups width groups (bytes.drop width)

/-- Packs 256 values. -/
def packValues (width : Nat) (values : List Nat) : Bytes := packGroups width (degree / 8) values

/-- Unpacks 256 values. -/
def unpackValues (width : Nat) (bytes : Bytes) : List Nat := unpackGroups width (degree / 8) bytes

/-- Packs coefficients of at most `top` as their distance from `top`. -/
def packBelow (width top : Nat) (a : Poly) : Bytes := packValues width (a.map (difference top))

/-- Unpacks coefficients of at most `top` from their distance from `top`. -/
def unpackBelow (width top : Nat) (bytes : Bytes) : Poly :=
  (unpackValues width bytes).map (difference top)

/-- Cuts off `count` pieces of `size` bytes. -/
def pieces (size : Nat) : (count : Nat) → Bytes → List Bytes
  | 0, _ => []
  | count + 1, bytes => bytes.take size :: pieces size count (bytes.drop size)

/-- Unpacks `count` polynomials that lie one behind the other. -/
def unpackVector (width count : Nat) (unpack : Bytes → Poly) (bytes : Bytes) : List Poly :=
  (pieces (Parameters.packedSize width) count bytes).map unpack

/-- The places of the ones of a polynomial, counted from `index`. -/
def onesFrom (index : Nat) : List Bool → List Nat
  | [] => []
  | true :: hints => index :: onesFrom (index + 1) hints
  | false :: hints => onesFrom (index + 1) hints

/-- The counts of ones up to the end of each polynomial. -/
def runningCounts (count : Nat) : List (List Nat) → List Nat
  | [] => []
  | places :: rest => (count + places.length) :: runningCounts (count + places.length) rest

/-- Packs hints: the places of the ones, filled up with zeros, then the running counts. -/
def packHints (p : Parameters) (hints : List (List Bool)) : Bytes :=
  let places := hints.map (onesFrom 0)
  let all := places.flatten
  ((all ++ List.replicate (p.maxHints - all.length) 0) ++ runningCounts 0 places).map UInt8.ofNat

/-- The numbers strictly increase. -/
def increasing : List Nat → Bool
  | a :: b :: rest => a < b && increasing (b :: rest)
  | _ => true

/-- Reads the places of the ones of each polynomial from the running counts. The counts may not
decrease or pass the end, the places of one polynomial increase, and what is left is zero. -/
def unpackPlaces (used : Nat) : List Nat → List Nat → Option (List (List Nat))
  | [], rest => if rest.all (· == 0) then some [] else none
  | count :: counts, rest =>
    if count < used then none
    else
      let places := rest.take (count - used)
      if places.length < count - used ∨ !increasing places then none
      else (unpackPlaces count counts (rest.drop (count - used))).map (places :: ·)

/-- Reads packed hints. -/
def unpackHints (p : Parameters) (bytes : Bytes) : Option (List (List Bool)) :=
  let numbers := bytes.map UInt8.toNat
  (unpackPlaces 0 (numbers.drop p.maxHints) (numbers.take p.maxHints)).map fun all =>
    all.map fun places => (List.range degree).map places.contains

end HybridTx.Dilithium
