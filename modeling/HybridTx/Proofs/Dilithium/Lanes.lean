import HybridTx.Proofs.Dilithium.Digits
import HybridTx.Proofs.Dilithium.Ring

/-! The transform on packed coefficients. All coefficients of a polynomial stand in the lanes of one
number, which are so wide that nothing is reduced before the end. A half-size transform is then a
few operations on numbers, and a proof can evaluate it. -/

namespace HybridTx.Dilithium

section Gather

variable {width : Nat} {a b : List Nat}

/-- Adds multiples of two lists. -/
def combine (factor factor' : Nat) (a b : List Nat) : List Nat :=
  List.zipWith (fun x y => factor * x + factor' * y) a b

theorem gather_combine (factor factor' : Nat) (h : a.length = b.length) :
    gather width (combine factor factor' a b) =
      factor * gather width a + factor' * gather width b := by
  induction a generalizing b with
  | nil =>
    obtain rfl := List.length_eq_zero_iff.mp h.symm
    rfl
  | cons value a ih =>
    obtain ⟨value', b, rfl⟩ := List.exists_cons_of_length_eq_add_one h.symm
    rw [combine, List.zipWith_cons_cons, gather_cons, ← combine, ih (Nat.succ.inj h), gather_cons,
      gather_cons]
    ring

theorem length_combine {factor factor' size : Nat} (ha : a.length = size) (hb : b.length = size) :
    (combine factor factor' a b).length = size := by
  rw [combine, List.length_zipWith, ha, hb, min_self]

theorem combine_lt {factor factor' bound bits : Nat} (hfactors : factor + factor' ≤ 2 ^ bits)
    (ha : ∀ x ∈ a, x < bound) (hb : ∀ y ∈ b, y < bound) :
    ∀ z ∈ combine factor factor' a b, z < bound * 2 ^ bits :=
  forall_mem_zipWith fun x hx y hy => by
    have hpos : 0 < bound := Nat.zero_lt_of_lt (ha x hx)
    calc factor * x + factor' * y
        ≤ factor * (bound - 1) + factor' * (bound - 1) :=
          Nat.add_le_add (Nat.mul_le_mul_left _ (Nat.le_sub_one_of_lt (ha x hx)))
            (Nat.mul_le_mul_left _ (Nat.le_sub_one_of_lt (hb y hy)))
      _ = (bound - 1) * (factor + factor') := by ring
      _ ≤ (bound - 1) * 2 ^ bits := Nat.mul_le_mul_left _ hfactors
      _ < bound * 2 ^ bits := Nat.mul_lt_mul_of_pos_right (by omega) (Nat.two_pow_pos bits)

end Gather

section Residues

variable {a b a' b' : Poly} {factor factor' : Nat}

/-- Coefficients that need not be reduced, as residues. -/
def residues (a : List Nat) : List (ZMod modulus) := a.map Nat.cast

theorem residues_combine : residues (combine factor factor' a b) =
    List.zipWith (fun x y => (factor * x + factor' * y : ZMod modulus)) (residues a)
      (residues b) := by
  simp [residues, combine, List.map_zipWith, List.zipWith_map]

theorem residues_combine_congr (ha : residues a = residues a') (hb : residues b = residues b') :
    residues (combine factor factor' a b) = residues (combine factor factor' a' b') := by
  rw [residues_combine, residues_combine, ha, hb]

theorem residues_add : residues (Poly.add a b) = residues (combine 1 1 a b) := by
  simp [residues, combine, Poly.add, List.map_zipWith]

theorem residues_add_scale :
    residues (Poly.add a (Poly.scale factor b)) = residues (combine 1 factor a b) := by
  simp [residues, combine, Poly.add, Poly.scale, List.map_zipWith, List.zipWith_map_right, mul_comm]

theorem residues_sub_scale (h : factor ≤ modulus) :
    residues (Poly.sub a (Poly.scale factor b)) = residues (combine 1 (modulus - factor) a b) := by
  simp [residues, combine, Poly.sub, Poly.scale, List.map_zipWith, List.zipWith_map_right,
    cast_difference, Nat.cast_sub h, mul_comm, sub_eq_add_neg]

theorem residues_scale_sub (h : factor ≤ modulus) :
    residues (Poly.scale factor (Poly.sub a b)) =
      residues (combine factor (modulus - factor) a b) := by
  simp [residues, combine, Poly.sub, Poly.scale, List.map_zipWith, cast_difference, Nat.cast_sub h,
    sub_eq_add_neg, mul_add, mul_comm]

theorem residues_take (h : residues a = residues b) (count : Nat) :
    residues (a.take count) = residues (b.take count) := by
  rw [residues, List.map_take, ← residues, h, residues, ← List.map_take, residues]

theorem residues_drop (h : residues a = residues b) (count : Nat) :
    residues (a.drop count) = residues (b.drop count) := by
  rw [residues, List.map_drop, ← residues, h, residues, ← List.map_drop, residues]

theorem residues_append (ha : residues a = residues a') (hb : residues b = residues b') :
    residues (a ++ b) = residues (a' ++ b') := by
  rw [residues, List.map_append, ← residues, ← residues, ha, hb, residues, residues,
    ← List.map_append, residues]

theorem map_mod_eq (h : residues a = residues b) (factor : Nat) :
    a.map (· * factor % modulus) = b.map (· * factor % modulus) := by
  have hvalue : ∀ a : List Nat, a.map (· * factor % modulus) =
      (residues a).map fun x => (x * (factor : ZMod modulus)).val := by
    intro a
    rw [residues, List.map_map]
    refine List.map_congr_left fun x _ => ?_
    rw [Function.comp_apply, ← Nat.cast_mul, ZMod.val_natCast]
  rw [hvalue, hvalue, h]

end Residues

/-- Bits of a lane: 23 for a coefficient, and 24 more for each of eight steps. -/
def laneBits : Nat := 216

namespace Poly

/-- `splitNode` of the coefficients in the lanes of a number, in front of `rest`. The root is told
by its exponent. -/
def splitLanes : (depth exponent lanes : Nat) → List Nat → List Nat
  | 0, _, lanes, rest => Nat.mod lanes modulus :: rest
  | depth + 1, exponent, lanes, rest =>
    let root := Nat.mod (Nat.pow 1753 exponent) modulus
    let size := Nat.pow 2 (Nat.mul laneBits (Nat.pow 2 depth))
    let low := Nat.mod lanes size
    let high := Nat.div lanes size
    splitLanes depth (Nat.div exponent 2) (Nat.add low (Nat.mul root high))
      (splitLanes depth (Nat.add (Nat.div exponent 2) 128)
        (Nat.add low (Nat.mul (Nat.sub modulus root) high)) rest)

/-- `joinNode` of the coefficients in the lanes of a number. -/
def joinLanes : (depth exponent lanes : Nat) → Nat
  | 0, _, lanes => lanes
  | depth + 1, exponent, lanes =>
    let root := Nat.mod (Nat.pow 1753 (Nat.sub 512 exponent)) modulus
    let size := Nat.pow 2 (Nat.mul laneBits (Nat.pow 2 depth))
    let low := joinLanes depth (Nat.div exponent 2) (Nat.mod lanes size)
    let high := joinLanes depth (Nat.add (Nat.div exponent 2) 128) (Nat.div lanes size)
    Nat.add (Nat.add low high)
      (Nat.mul (Nat.add (Nat.mul root low) (Nat.mul (Nat.sub modulus root) high)) size)

theorem reverseBits_children : ∀ node < 256, reverseBits node < 256 ∧
    reverseBits (2 * node) = reverseBits node / 2 ∧
    reverseBits (2 * node + 1) = reverseBits node / 2 + 128 := by decide +kernel

theorem roots_eq {node : Nat} (h : node < 256) :
    roots.getD node 0 = 1753 ^ reverseBits node % modulus := by
  apply eq_of_cast_eq
  · rw [root_eq h]
    exact powMod_lt (by decide)
  · exact Nat.mod_lt _ (by decide)
  · rw [root_eq h, cast_powMod, ZMod.natCast_mod, Nat.cast_pow]

theorem inverseRoots_eq {node : Nat} (h : node < 256) :
    inverseRoots.getD node 0 = 1753 ^ (512 - reverseBits node) % modulus := by
  have hle : reverseBits node ≤ 512 := by
    have := (reverseBits_children node h).1
    omega
  have horder : ((1753 ^ 512 % modulus : Nat) : ZMod modulus) = 1 := by
    have hone : 1753 ^ 512 % modulus = 1 := by decide +kernel
    rw [hone, Nat.cast_one]
  apply eq_of_cast_eq
  · rw [inverseRoot_eq h]
    exact inverse_lt (by decide)
  · exact Nat.mod_lt _ (by decide)
  · apply (isUnit_root h).mul_right_cancel
    rw [inverseRoot_mul_root h, ZMod.natCast_mod, Nat.cast_pow, root_eq h, cast_powMod, ← pow_add,
      Nat.sub_add_cancel hle, ← Nat.cast_pow, ← ZMod.natCast_mod, horder]

section Halves

variable {lanes : List Nat} {a : Poly} {depth node bound : Nat}

theorem length_halves {a : List Nat} (h : a.length = 2 ^ (depth + 1)) :
    (a.take (2 ^ depth)).length = 2 ^ depth ∧ (a.drop (2 ^ depth)).length = 2 ^ depth := by
  rw [Nat.pow_succ, Nat.mul_two] at h
  rw [List.length_take, List.length_drop]
  omega

theorem bound_succ (bound depth : Nat) :
    bound * 2 ^ 24 * 2 ^ (24 * depth) = bound * 2 ^ (24 * (depth + 1)) := by
  rw [Nat.mul_assoc, ← Nat.pow_add, Nat.mul_succ, Nat.add_comm]

/-- Coefficients leave a lane as much room as the steps to come need. -/
theorem lt_two_pow_laneBits (hlanes : ∀ x ∈ lanes, x < bound)
    (hbound : bound * 2 ^ (24 * depth) ≤ 2 ^ laneBits) : ∀ x ∈ lanes, x < 2 ^ laneBits := by
  intro x hx
  calc x < bound := hlanes x hx
    _ ≤ bound * 2 ^ (24 * depth) := Nat.le_mul_of_pos_right _ (Nat.two_pow_pos _)
    _ ≤ 2 ^ laneBits := hbound

theorem gather_half (hlength : lanes.length = 2 ^ (depth + 1))
    (hlanes : ∀ x ∈ lanes, x < 2 ^ laneBits) :
    gather laneBits lanes % 2 ^ (laneBits * 2 ^ depth) =
        gather laneBits (lanes.take (2 ^ depth)) ∧
      gather laneBits lanes / 2 ^ (laneBits * 2 ^ depth) =
        gather laneBits (lanes.drop (2 ^ depth)) := by
  refine gather_take_drop hlanes ?_
  rw [hlength]
  exact Nat.pow_le_pow_right (by decide) (Nat.le_succ depth)

/-- The halves of packed coefficients, combined. -/
theorem gather_halves (hlength : lanes.length = 2 ^ (depth + 1))
    (hlanes : ∀ x ∈ lanes, x < 2 ^ laneBits) (factor factor' : Nat) :
    factor * (gather laneBits lanes % 2 ^ (laneBits * 2 ^ depth)) +
        factor' * (gather laneBits lanes / 2 ^ (laneBits * 2 ^ depth)) =
      gather laneBits
        (combine factor factor' (lanes.take (2 ^ depth)) (lanes.drop (2 ^ depth))) := by
  obtain ⟨htake, hdrop⟩ := length_halves hlength
  obtain ⟨hlow, hhigh⟩ := gather_half hlength hlanes
  rw [hlow, hhigh, gather_combine _ _ (htake.trans hdrop.symm)]

/-- The sum of two halves in front of another combination of them, packed. -/
theorem gather_join {low high : List Nat} (hlow : low.length = 2 ^ depth)
    (hhigh : high.length = 2 ^ depth) (factor factor' : Nat) :
    gather laneBits (combine 1 1 low high ++ combine factor factor' low high) =
      gather laneBits low + gather laneBits high +
        (factor * gather laneBits low + factor' * gather laneBits high) *
          2 ^ (laneBits * 2 ^ depth) := by
  have hlengths := hlow.trans hhigh.symm
  rw [gather_append, length_combine hlow hhigh, gather_combine _ _ hlengths,
    gather_combine _ _ hlengths, Nat.one_mul, Nat.one_mul]

theorem splitLanes_eq (hnode : (node + 1) * 2 ^ depth ≤ 512) (hlength : lanes.length = 2 ^ depth)
    (hlanes : ∀ x ∈ lanes, x < bound) (hbound : bound * 2 ^ (24 * depth) ≤ 2 ^ laneBits)
    (hresidues : residues lanes = residues a) (hreduced : depth = 0 → a.Reduced)
    (rest : List Nat) :
    splitLanes depth (reverseBits node) (gather laneBits lanes) rest =
      splitNode depth node a ++ rest := by
  induction depth generalizing node lanes a bound rest with
  | zero =>
    obtain ⟨x, rfl⟩ := List.length_eq_one_iff.mp hlength
    have ha : a.length = 1 := by simpa [residues] using (congrArg List.length hresidues).symm
    obtain ⟨y, rfl⟩ := List.length_eq_one_iff.mp ha
    have hcast : ((x % modulus : Nat) : ZMod modulus) = y :=
      (ZMod.natCast_mod x modulus).trans (List.head_eq_of_cons_eq hresidues)
    have hvalue := eq_of_cast_eq (Nat.mod_lt x (by decide))
      (hreduced rfl y (List.mem_singleton_self y)) hcast
    have hlane : gather laneBits [x] = x := by simp [gather]
    rw [splitLanes, hlane]
    exact congrArg (· :: rest) hvalue
  | succ depth ih =>
    obtain ⟨hsmall, hfirst, hsecond⟩ := children_bounds hnode
    obtain ⟨-, hlow, hhigh⟩ := reverseBits_children node hsmall
    obtain ⟨htake, hdrop⟩ := length_halves hlength
    have hstep : bound * 2 ^ 24 * 2 ^ (24 * depth) ≤ 2 ^ laneBits :=
      le_of_eq_of_le (bound_succ bound depth) hbound
    have hfits := lt_two_pow_laneBits hlanes hbound
    have hroot : 1753 ^ reverseBits node % modulus ≤ modulus := (Nat.mod_lt _ (by decide)).le
    have hchild : ∀ (node factor : Nat) (half : Poly) (rest : List Nat), factor ≤ modulus →
        (node + 1) * 2 ^ depth ≤ 512 → half.Reduced →
        residues half = residues (combine 1 factor (a.take (2 ^ depth)) (a.drop (2 ^ depth))) →
        splitLanes depth (reverseBits node) (gather laneBits lanes % 2 ^ (laneBits * 2 ^ depth) +
          factor * (gather laneBits lanes / 2 ^ (laneBits * 2 ^ depth))) rest =
          splitNode depth node half ++ rest := by
      intro node factor half rest hfactor hnode hreduced hhalf
      have hgather := gather_halves hlength hfits 1 factor
      rw [Nat.one_mul] at hgather
      rw [hgather]
      refine ih hnode ?_ (combine_lt ?_ (fun x hx => hlanes x (List.mem_of_mem_take hx))
        fun x hx => hlanes x (List.mem_of_mem_drop hx)) hstep ?_ (fun _ => hreduced) rest
      · exact length_combine htake hdrop
      · have : modulus + 1 ≤ 2 ^ 24 := by decide
        omega
      · rw [hhalf]
        exact residues_combine_congr (residues_take hresidues _) (residues_drop hresidues _)
    rw [splitNode, List.append_assoc, ← hchild (2 * node + 1) _ _ _ (Nat.sub_le modulus _) hsecond
      reduced_sub (residues_sub_scale (by rwa [roots_eq hsmall])), roots_eq hsmall,
      ← hchild (2 * node) _ _ _ hroot hfirst reduced_add residues_add_scale, hlow, hhigh]
    rfl

theorem joinLanes_eq (hnode : (node + 1) * 2 ^ depth ≤ 512) (hlength : lanes.length = 2 ^ depth)
    (hlanes : ∀ x ∈ lanes, x < bound) (hbound : bound * 2 ^ (24 * depth) ≤ 2 ^ laneBits)
    (hresidues : residues lanes = residues a) :
    ∃ joined : List Nat, joined.length = 2 ^ depth ∧
      (∀ x ∈ joined, x < bound * 2 ^ (24 * depth)) ∧
      joinLanes depth (reverseBits node) (gather laneBits lanes) = gather laneBits joined ∧
      residues joined = residues (joinNode depth node a) := by
  induction depth generalizing node lanes a with
  | zero => exact ⟨lanes, hlength, by simpa using hlanes, rfl, hresidues⟩
  | succ depth ih =>
    obtain ⟨hsmall, hfirst, hsecond⟩ := children_bounds hnode
    obtain ⟨-, hlow, hhigh⟩ := reverseBits_children node hsmall
    obtain ⟨htake, hdrop⟩ := length_halves hlength
    have hfits := lt_two_pow_laneBits hlanes hbound
    have hhalf : bound * 2 ^ (24 * depth) ≤ 2 ^ laneBits :=
      le_trans (Nat.le_mul_of_pos_right _ (Nat.two_pow_pos 24))
        (le_of_eq_of_le ((Nat.mul_right_comm _ _ _).trans (bound_succ bound depth)) hbound)
    obtain ⟨low, hlowLength, hlowLt, hlowEq, hlowResidues⟩ := ih hfirst htake
      (fun x hx => hlanes x (List.mem_of_mem_take hx)) hhalf
      (residues_take hresidues _)
    obtain ⟨high, hhighLength, hhighLt, hhighEq, hhighResidues⟩ := ih hsecond hdrop
      (fun x hx => hlanes x (List.mem_of_mem_drop hx)) hhalf
      (residues_drop hresidues _)
    have hroot : 1753 ^ (512 - reverseBits node) % modulus ≤ modulus :=
      (Nat.mod_lt _ (by decide)).le
    have hsmaller : ∀ factor factor', factor + factor' ≤ 2 ^ 24 →
        ∀ x ∈ combine factor factor' low high, x < bound * 2 ^ (24 * (depth + 1)) := by
      intro factor factor' hfactors x hx
      have hlt := combine_lt hfactors hlowLt hhighLt x hx
      rwa [Nat.mul_right_comm, bound_succ] at hlt
    refine ⟨combine 1 1 low high ++ combine (1753 ^ (512 - reverseBits node) % modulus)
      (modulus - 1753 ^ (512 - reverseBits node) % modulus) low high, ?_, ?_, ?_, ?_⟩
    · rw [List.length_append, length_combine hlowLength hhighLength,
        length_combine hlowLength hhighLength, Nat.pow_succ, Nat.mul_two]
    · intro x hx
      obtain hx | hx := List.mem_append.mp hx
      · exact hsmaller 1 1 (by decide) x hx
      · refine hsmaller _ _ ?_ x hx
        rw [Nat.add_sub_cancel' hroot]
        decide
    · obtain ⟨hmod, hdiv⟩ := gather_half hlength hfits
      rw [gather_join hlowLength hhighLength, ← hlowEq, ← hhighEq, hlow, hhigh, ← hmod, ← hdiv]
      rfl
    · rw [joinNode, inverseRoots_eq hsmall]
      have hparts : ∀ factor factor', residues (combine factor factor' low high) =
          residues (combine factor factor' _ _) := fun _ _ =>
        residues_combine_congr hlowResidues hhighResidues
      exact residues_append ((hparts 1 1).trans residues_add.symm)
        ((hparts _ _).trans (residues_scale_sub hroot).symm)

end Halves

/-- `transform` by way of lanes. -/
noncomputable def transformLanes (a : Poly) : Poly :=
  if Quick.length a = degree then splitLanes 8 128 (stack laneBits (Nat.mod · modulus) a) []
  else transform a

/-- `untransform` by way of lanes. -/
noncomputable def untransformLanes (a : Poly) : Poly :=
  if Quick.length a = degree then
    pick laneBits (fun x => some (Nat.mod (Nat.mul x (inverse modulus degree)) modulus)) degree
      (joinLanes 8 128 (stack laneBits (Nat.mod · modulus) a)) []
  else untransform a

theorem residues_map_mod (a : Poly) : residues (a.map (· % modulus)) = residues a := by
  simp [residues]

theorem lt_of_mem_map_mod (a : Poly) : ∀ x ∈ a.map (· % modulus), x < modulus := by
  intro x hx
  obtain ⟨y, -, rfl⟩ := List.mem_map.mp hx
  exact Nat.mod_lt y (by decide)

theorem lanes_wide : modulus * 2 ^ (24 * 8) ≤ 2 ^ laneBits := by decide +kernel

theorem transform_eq : transform = transformLanes := by
  funext a
  rw [transformLanes, stack_eq, ← Quick.length_eq]
  split
  · next hlength =>
    have hsplit : splitLanes 8 (reverseBits 1) (gather laneBits (a.map (· % modulus))) [] =
        splitNode 8 1 a ++ [] :=
      splitLanes_eq (by decide) ((List.length_map _).trans hlength) (lt_of_mem_map_mod a) lanes_wide
        (residues_map_mod a) nofun []
    rw [List.append_nil] at hsplit
    exact hsplit.symm
  · rfl

theorem untransform_eq : untransform = untransformLanes := by
  funext a
  rw [untransformLanes, stack_eq, pick_some, ← Quick.length_eq]
  split
  · next hlength =>
    have hnode : (1 + 1) * 2 ^ 8 ≤ 512 := by decide
    obtain ⟨joined, hjoinedLength, hlt, hjoin, hresidues⟩ := joinLanes_eq hnode
      ((List.length_map _).trans hlength) (lt_of_mem_map_mod a) lanes_wide (residues_map_mod a)
    have hread := scatter_gather fun x hx => (hlt x hx).trans_le lanes_wide
    rw [hjoinedLength] at hread
    have hvalues := map_mod_eq hresidues (inverse modulus degree)
    rw [untransform, scale, ← hvalues, ← hread, ← hjoin]
    rfl
  · rfl

end Poly

end HybridTx.Dilithium
