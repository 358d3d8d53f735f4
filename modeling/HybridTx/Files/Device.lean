import HybridTx.Text.Octets

/-! The paths at which a system has no files but sources and sinks without end, and streams. -/

namespace HybridTx

/-- What is at such a path. -/
inductive Device
  | nothing
  | zeros
  | noise
  | full
  | stream (number : Nat)
deriving DecidableEq, Repr

namespace Device

/-- The device at a path, if it is one. -/
def ofPath? (path : Octets) : Option Device :=
  match path with
  | "/dev/null" => some .nothing
  | "/dev/zero" => some .zeros
  | "/dev/random" | "/dev/urandom" => some .noise
  | "/dev/full" => some .full
  | "/dev/stdin" => some (.stream 0)
  | "/dev/stdout" => some (.stream 1)
  | "/dev/stderr" => some (.stream 2)
  | path =>
    let number? :=
      if path.startsWith "/dev/fd/" then (path.drop 8).toString.toNat?
      else if path.startsWith "/proc/self/fd/" then (path.drop 14).toString.toNat?
      else none
    number?.map .stream

/-- How much of an endless source is read at once. -/
def portion : Nat := 131072

/-- Bytes without a pattern, each made from the one before. -/
def noiseFrom : (count : Nat) → (seed : UInt64) → List Char
  | 0, _ => []
  | count + 1, seed =>
    let next := seed * 6364136223846793005 + 1442695040888963407
    Char.ofNat (next >>> 56).toNat :: noiseFrom count next

/-- What is read from a source at once. -/
def content : Device → Octets
  | nothing | stream _ => ""
  | zeros | full => String.ofList (List.replicate portion '\x00')
  | noise => String.ofList (noiseFrom portion 1)

end Device

end HybridTx
