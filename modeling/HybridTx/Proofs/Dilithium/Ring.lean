import Mathlib.Data.List.GetD
import HybridTx.Dilithium.Ring
import HybridTx.Proofs.Arithmetic.Residues

/-! The transform as a linear map. Polynomials are looked at coefficient by coefficient in the ring
of residues; there the transform and its inverse are linear, and the transform undoes its
inverse. -/

namespace HybridTx.Dilithium

theorem cast_difference (a b : Nat) :
    (difference a b : ZMod modulus) = a - b := by
  have hle : b % modulus ≤ modulus := (Nat.mod_lt b (by decide)).le
  have h := cast_subMod (a := a) hle
  rw [ZMod.natCast_mod] at h
  exact h

theorem difference_lt (a b : Nat) : difference a b < modulus := Nat.mod_lt _ (by decide)

/-- What is made of the members of two lists has a property if it has it for any two members. -/
theorem forall_mem_zipWith {α β γ : Type} {f : α → β → γ} {as : List α} {bs : List β}
    {p : γ → Prop} (h : ∀ a ∈ as, ∀ b ∈ bs, p (f a b)) : ∀ c ∈ List.zipWith f as bs, p c := by
  intro c hc
  obtain ⟨i, hi, rfl⟩ := List.getElem_of_mem hc
  rw [List.getElem_zipWith]
  exact h _ (List.getElem_mem _) _ (List.getElem_mem _)

namespace Poly

/-- A coefficient as a residue. Beyond the last one all are zero. -/
def coeff (a : Poly) (i : Nat) : ZMod modulus := (a.getD i 0 : Nat)

/-- The coefficients are the least ones of their residues. -/
def Reduced (a : Poly) : Prop := ∀ x ∈ a, x < modulus

theorem coeff_of_lt {a : Poly} {i : Nat} (h : i < a.length) : a.coeff i = (a[i] : Nat) := by
  rw [coeff, List.getD_eq_getElem _ _ h]

theorem coeff_of_le {a : Poly} {i : Nat} (h : a.length ≤ i) : a.coeff i = 0 := by
  rw [coeff, List.getD_eq_default _ _ h, Nat.cast_zero]

section Operations

variable {a b : Poly} {i : Nat}

theorem coeff_add (h : a.length = b.length) : (add a b).coeff i = a.coeff i + b.coeff i := by
  by_cases hi : i < a.length
  · have hib : i < b.length := h ▸ hi
    rw [coeff_of_lt (by simp [add, hi, hib]), coeff_of_lt hi, coeff_of_lt hib]
    simp [add]
  · have hib : b.length ≤ i := by omega
    rw [coeff_of_le (by simp [add]; omega), coeff_of_le (by omega), coeff_of_le hib, add_zero]

theorem coeff_sub (h : a.length = b.length) : (sub a b).coeff i = a.coeff i - b.coeff i := by
  by_cases hi : i < a.length
  · have hib : i < b.length := h ▸ hi
    rw [coeff_of_lt (by simp [sub, hi, hib]), coeff_of_lt hi, coeff_of_lt hib]
    simp [sub, cast_difference]
  · have hib : b.length ≤ i := by omega
    rw [coeff_of_le (by simp [sub]; omega), coeff_of_le (by omega), coeff_of_le hib, sub_zero]

theorem coeff_scale (factor : Nat) : (scale factor a).coeff i = a.coeff i * factor := by
  by_cases hi : i < a.length
  · rw [coeff_of_lt (by simpa [scale] using hi), coeff_of_lt hi]
    simp [scale]
  · rw [coeff_of_le (by simpa [scale] using hi), coeff_of_le (by omega), zero_mul]

theorem coeff_pointwise : (pointwise a b).coeff i = a.coeff i * b.coeff i := by
  by_cases hi : i < a.length ∧ i < b.length
  · obtain ⟨hia, hib⟩ := hi
    rw [coeff_of_lt (by simp [pointwise, hia, hib]), coeff_of_lt hia, coeff_of_lt hib]
    simp [pointwise]
  · rw [coeff_of_le (by simp [pointwise]; omega)]
    obtain hia | hib : a.length ≤ i ∨ b.length ≤ i := by omega
    · rw [coeff_of_le hia, zero_mul]
    · rw [coeff_of_le hib, mul_zero]

theorem coeff_take (n : Nat) : coeff (a.take n) i = if i < n then a.coeff i else 0 := by
  unfold coeff
  split
  · next h => simp [List.getD_eq_getElem?_getD, h]
  · next h => simp [List.getD_eq_getElem?_getD, h]

theorem coeff_drop (n : Nat) : coeff (a.drop n) i = a.coeff (n + i) := by
  simp [coeff, List.getD_eq_getElem?_getD]

theorem coeff_append {size : Nat} (h : a.length = size) :
    coeff (a ++ b) i = if i < size then a.coeff i else b.coeff (i - size) := by
  subst h
  split
  · next hi => rw [coeff, List.getD_append _ _ _ _ hi, coeff]
  · next hi => rw [coeff, List.getD_append_right _ _ _ _ (not_lt.mp hi), coeff]

theorem coeff_zero : zero.coeff i = 0 := by
  unfold coeff zero
  simp [List.getD_eq_getElem?_getD, List.getElem?_replicate]
  split <;> simp

@[simp] theorem length_add : (add a b).length = min a.length b.length := by simp [add]

@[simp] theorem length_sub : (sub a b).length = min a.length b.length := by simp [sub]

@[simp] theorem length_scale (factor : Nat) : (scale factor a).length = a.length := by simp [scale]

@[simp] theorem length_pointwise : (pointwise a b).length = min a.length b.length := by
  simp [pointwise]

end Operations

/-- Of three polynomials of one size the last is the first with a multiple of the second added. -/
structure Combines (size : Nat) (factor : ZMod modulus) (a b c : Poly) : Prop where
  length_first : a.length = size
  length_second : b.length = size
  length_last : c.length = size
  coeff_last : ∀ i, c.coeff i = a.coeff i + factor * b.coeff i

namespace Combines

variable {size size' depth : Nat} {factor : ZMod modulus} {a b c a' b' c' : Poly}

theorem take (h : Combines (size + size') factor a b c) :
    Combines size factor (a.take size) (b.take size) (c.take size) where
  length_first := by simp [h.length_first]
  length_second := by simp [h.length_second]
  length_last := by simp [h.length_last]
  coeff_last i := by
    simp only [coeff_take]
    split
    · exact h.coeff_last i
    · simp

theorem drop (h : Combines (size + size') factor a b c) :
    Combines size' factor (a.drop size) (b.drop size) (c.drop size) where
  length_first := by simp [h.length_first]
  length_second := by simp [h.length_second]
  length_last := by simp [h.length_last]
  coeff_last i := by
    simp only [coeff_drop]
    exact h.coeff_last (size + i)

theorem append (h : Combines size factor a b c) (h' : Combines size' factor a' b' c') :
    Combines (size + size') factor (a ++ a') (b ++ b') (c ++ c') where
  length_first := by simp [h.length_first, h'.length_first]
  length_second := by simp [h.length_second, h'.length_second]
  length_last := by simp [h.length_last, h'.length_last]
  coeff_last i := by
    rw [coeff_append h.length_first, coeff_append h.length_second, coeff_append h.length_last]
    split
    · exact h.coeff_last i
    · exact h'.coeff_last (i - size)

theorem add (h : Combines size factor a b c) (h' : Combines size factor a' b' c') :
    Combines size factor (add a a') (add b b') (add c c') where
  length_first := by simp [h.length_first, h'.length_first]
  length_second := by simp [h.length_second, h'.length_second]
  length_last := by simp [h.length_last, h'.length_last]
  coeff_last i := by
    rw [coeff_add (h.length_first.trans h'.length_first.symm),
      coeff_add (h.length_second.trans h'.length_second.symm),
      coeff_add (h.length_last.trans h'.length_last.symm), h.coeff_last, h'.coeff_last]
    ring

theorem sub (h : Combines size factor a b c) (h' : Combines size factor a' b' c') :
    Combines size factor (sub a a') (sub b b') (sub c c') where
  length_first := by simp [h.length_first, h'.length_first]
  length_second := by simp [h.length_second, h'.length_second]
  length_last := by simp [h.length_last, h'.length_last]
  coeff_last i := by
    rw [coeff_sub (h.length_first.trans h'.length_first.symm),
      coeff_sub (h.length_second.trans h'.length_second.symm),
      coeff_sub (h.length_last.trans h'.length_last.symm), h.coeff_last, h'.coeff_last]
    ring

theorem scale (h : Combines size factor a b c) (number : Nat) :
    Combines size factor (scale number a) (scale number b) (scale number c) where
  length_first := by simp [h.length_first]
  length_second := by simp [h.length_second]
  length_last := by simp [h.length_last]
  coeff_last i := by
    rw [coeff_scale, coeff_scale, coeff_scale, h.coeff_last]
    ring

theorem self (h : a.length = size) : Combines size 0 a a a := ⟨h, h, h, by simp⟩

theorem of_add (ha : a.length = size) (hb : b.length = size) :
    Combines size 1 a b (Poly.add a b) :=
  ⟨ha, hb, by simp [ha, hb], fun i => by rw [coeff_add (ha.trans hb.symm), one_mul]⟩

theorem of_sub (ha : a.length = size) (hb : b.length = size) :
    Combines size (-1) a b (Poly.sub a b) :=
  ⟨ha, hb, by simp [ha, hb], fun i => by
    rw [coeff_sub (ha.trans hb.symm), neg_one_mul, sub_eq_add_neg]⟩

theorem splitNode (node : Nat) (h : Combines (2 ^ depth) factor a b c) :
    Combines (2 ^ depth) factor (splitNode depth node a) (splitNode depth node b)
      (splitNode depth node c) := by
  induction depth generalizing node a b c with
  | zero => exact h
  | succ depth ih =>
    rw [Nat.pow_succ, Nat.mul_two] at h ⊢
    have hhigh := h.drop.scale (roots.getD node 0)
    exact (ih (2 * node) (h.take.add hhigh)).append (ih (2 * node + 1) (h.take.sub hhigh))

theorem joinNode (node : Nat) (h : Combines (2 ^ depth) factor a b c) :
    Combines (2 ^ depth) factor (joinNode depth node a) (joinNode depth node b)
      (joinNode depth node c) := by
  induction depth generalizing node a b c with
  | zero => exact h
  | succ depth ih =>
    rw [Nat.pow_succ, Nat.mul_two] at h ⊢
    have hlow := ih (2 * node) h.take
    have hhigh := ih (2 * node + 1) h.drop
    exact (hlow.add hhigh).append ((hlow.sub hhigh).scale (inverseRoots.getD node 0))

/-- The transform is linear. -/
theorem transform (h : Combines degree factor a b c) :
    Combines degree factor a.transform b.transform c.transform := by
  have h : Combines (2 ^ 8) factor a b c := h
  exact h.splitNode 1

/-- The inverse of the transform is linear. -/
theorem untransform (h : Combines degree factor a b c) :
    Combines degree factor a.untransform b.untransform c.untransform := by
  have h : Combines (2 ^ 8) factor a b c := h
  exact (h.joinNode 1).scale (inverse modulus degree)

end Combines

section Inverse

theorem root_eq {node : Nat} (h : node < 256) :
    roots.getD node 0 = powMod modulus 1753 (reverseBits node) := by simp [roots, Array.getD, h]

theorem inverseRoot_eq {node : Nat} (h : node < 256) :
    inverseRoots.getD node 0 = inverse modulus (roots.getD node 0) := by
  have hsize : roots.size = 256 := by simp [roots]
  simp [inverseRoots, Array.getD, hsize, h]

theorem isUnit_root {node : Nat} (h : node < 256) :
    IsUnit ((roots.getD node 0 : Nat) : ZMod modulus) := by
  rw [root_eq h]
  exact isUnit_powMod ((ZMod.isUnit_iff_coprime _ _).mpr (by decide)) _

theorem inverseRoot_mul_root {node : Nat} (h : node < 256) :
    (inverseRoots.getD node 0 : ZMod modulus) * (roots.getD node 0 : Nat) = 1 := by
  rw [inverseRoot_eq h]
  exact cast_inverse_mul (by decide) (isUnit_root h)

variable {a : Poly} {depth node : Nat} {i : Nat}

theorem length_joinNode (node : Nat) (h : a.length = 2 ^ depth) :
    (joinNode depth node a).length = 2 ^ depth :=
  ((Combines.self h).joinNode node).length_first

/-- The two halves that a joined polynomial is split into are each twice what was joined. -/
theorem combines_halves {low high : Poly} {size : Nat} (hlow : low.length = size)
    (hhigh : high.length = size) (hnode : node < 256) :
    let whole := add low high
    let turned := scale (roots.getD node 0) (scale (inverseRoots.getD node 0) (sub low high))
    Combines size 1 low low (add whole turned) ∧ Combines size 1 high high (sub whole turned) := by
  intro whole turned
  have hwhole : whole.length = size := by simp [whole, hlow, hhigh]
  have hturned : turned.length = size := by simp [turned, hlow, hhigh]
  have hcoeff : ∀ i, turned.coeff i = low.coeff i - high.coeff i := by
    intro i
    rw [coeff_scale, coeff_scale, coeff_sub (hlow.trans hhigh.symm), mul_assoc,
      inverseRoot_mul_root hnode, mul_one]
  refine ⟨⟨hlow, hlow, by simp [hwhole, hturned], fun i => ?_⟩,
    ⟨hhigh, hhigh, by simp [hwhole, hturned], fun i => ?_⟩⟩
  · rw [coeff_add (hwhole.trans hturned.symm), coeff_add (hlow.trans hhigh.symm), hcoeff]
    ring
  · rw [coeff_sub (hwhole.trans hturned.symm), coeff_add (hlow.trans hhigh.symm), hcoeff]
    ring

theorem children_bounds (h : (node + 1) * 2 ^ (depth + 1) ≤ 512) :
    node < 256 ∧ (2 * node + 1) * 2 ^ depth ≤ 512 ∧ (2 * node + 1 + 1) * 2 ^ depth ≤ 512 := by
  have hsecond : (2 * node + 1 + 1) * 2 ^ depth ≤ 512 := by
    rw [Nat.pow_succ] at h
    exact le_of_eq_of_le (by ring) h
  refine ⟨?_, le_trans (Nat.mul_le_mul_right _ (Nat.le_succ _)) hsecond, hsecond⟩
  have := Nat.le_mul_of_pos_right (2 * node + 1 + 1) (Nat.two_pow_pos depth)
  omega

/-- Splitting undoes joining, but for a factor. -/
theorem coeff_splitNode_joinNode (ha : a.length = 2 ^ depth)
    (hnode : (node + 1) * 2 ^ depth ≤ 512) :
    (splitNode depth node (joinNode depth node a)).coeff i = 2 ^ depth * a.coeff i := by
  induction depth generalizing node a i with
  | zero => simp [splitNode, joinNode]
  | succ depth ih =>
    have hpow : 2 ^ (depth + 1) = 2 ^ depth + 2 ^ depth := by rw [Nat.pow_succ, Nat.mul_two]
    have htake : (a.take (2 ^ depth)).length = 2 ^ depth := by rw [List.length_take]; omega
    have hdrop : (a.drop (2 ^ depth)).length = 2 ^ depth := by rw [List.length_drop]; omega
    have hlow := length_joinNode (2 * node) htake
    have hhigh := length_joinNode (2 * node + 1) hdrop
    obtain ⟨hsmall, hprevious, hnext⟩ := children_bounds hnode
    obtain ⟨hfirst, hsecond⟩ := combines_halves hlow hhigh hsmall
    have hwhole : (add (joinNode depth (2 * node) (a.take (2 ^ depth)))
        (joinNode depth (2 * node + 1) (a.drop (2 ^ depth)))).length = 2 ^ depth := by
      simp [hlow, hhigh]
    have hfirst := hfirst.splitNode (2 * node)
    have hsecond := hsecond.splitNode (2 * node + 1)
    rw [splitNode, joinNode, List.take_left' hwhole, List.drop_left' hwhole,
      coeff_append hfirst.length_last, hfirst.coeff_last, hsecond.coeff_last,
      ih htake hprevious, ih hdrop hnext, coeff_take, coeff_drop]
    split
    · ring
    · next hi =>
      rw [Nat.add_sub_cancel' (not_lt.mp hi)]
      ring

theorem length_transform (h : a.length = degree) : a.transform.length = degree :=
  (Combines.self h).transform.length_first

theorem length_untransform (h : a.length = degree) : a.untransform.length = degree :=
  (Combines.self h).untransform.length_first

/-- The transform undoes its inverse. -/
theorem coeff_transform_untransform (h : a.length = degree) :
    a.untransform.transform.coeff i = a.coeff i := by
  have hlength : a.length = 2 ^ 8 := h
  have hjoin : (joinNode 8 1 a).length = degree := length_joinNode 1 hlength
  have hdegree : (inverse modulus degree : ZMod modulus) * degree = 1 := by
    apply cast_inverse_mul (by decide)
    exact (ZMod.isUnit_iff_coprime _ _).mpr (by decide)
  have hscaled : Combines degree (inverse modulus degree - 1) (joinNode 8 1 a) (joinNode 8 1 a)
      a.untransform :=
    ⟨hjoin, hjoin, by simp [untransform, hjoin], fun i => by
      rw [untransform, coeff_scale]
      ring⟩
  have hsplit : (joinNode 8 1 a).transform.coeff i = 2 ^ 8 * a.coeff i :=
    coeff_splitNode_joinNode hlength (by decide)
  have hpower : (degree : ZMod modulus) = 2 ^ 8 := by norm_num [degree]
  rw [hscaled.transform.coeff_last, hsplit]
  linear_combination (a.coeff i) * hdegree - inverse modulus degree * a.coeff i * hpower

end Inverse

section Residues

variable {a b : Poly}

theorem reduced_add : Reduced (add a b) :=
  forall_mem_zipWith fun _ _ _ _ => Nat.mod_lt _ (by decide)

theorem reduced_sub : Reduced (sub a b) := forall_mem_zipWith fun _ _ _ _ => difference_lt _ _

theorem reduced_untransform : Reduced a.untransform := by
  intro x hx
  obtain ⟨_, -, rfl⟩ := List.mem_map.mp hx
  exact Nat.mod_lt _ (by decide)

end Residues

end Poly

open HybridTx.Dilithium.Poly

/-- A vector of polynomials with all their coefficients. -/
def AllFull (vector : List Poly) : Prop := ∀ a ∈ vector, a.length = degree

theorem AllFull.map_transform {vector : List Poly} (h : AllFull vector) :
    AllFull (vector.map transform) := by
  intro a ha
  obtain ⟨b, hb, rfl⟩ := List.mem_map.mp ha
  exact length_transform (h b hb)

section Dot

variable {row vector : List Poly} {i : Nat}

theorem foldl_add_spec {total : Poly} (htotal : total.length = degree) (h : AllFull vector)
    (i : Nat) :
    (vector.foldl add total).length = degree ∧
      (vector.foldl add total).coeff i = total.coeff i + (vector.map (·.coeff i)).sum := by
  induction vector generalizing total with
  | nil => simp [htotal]
  | cons a vector ih =>
    obtain ⟨ha, hvector⟩ := List.forall_mem_cons.mp h
    have hnext : (add total a).length = degree := by simp [htotal, ha]
    obtain ⟨hlength, hcoeff⟩ := ih hnext hvector
    refine ⟨hlength, ?_⟩
    rw [List.foldl_cons, hcoeff, coeff_add (htotal.trans ha.symm), List.map_cons, List.sum_cons,
      add_assoc]

theorem allFull_zipWith_pointwise (hrow : AllFull row) (hvector : AllFull vector) :
    AllFull (List.zipWith pointwise row vector) :=
  forall_mem_zipWith fun a ha b hb => by simp [hrow a ha, hvector b hb]

theorem length_dot (hrow : AllFull row) (hvector : AllFull vector) :
    (dot row vector).length = degree :=
  (foldl_add_spec List.length_replicate (allFull_zipWith_pointwise hrow hvector) 0).1

theorem coeff_dot (hrow : AllFull row) (hvector : AllFull vector) :
    (dot row vector).coeff i =
      (List.zipWith (fun a b => a.coeff i * b.coeff i) row vector).sum := by
  have hterms := allFull_zipWith_pointwise hrow hvector
  have hzero : zero.length = degree := List.length_replicate
  rw [dot, (foldl_add_spec hzero hterms i).2, coeff_zero, zero_add,
    List.map_zipWith]
  simp only [coeff_pointwise]

theorem sum_zipWith_combined {f g : Poly → ZMod modulus} {k : ZMod modulus}
    {first second last : List Poly} (hfirst : first.length = last.length)
    (hsecond : second.length = last.length)
    (h : ∀ j (hj : j < last.length), g last[j] = g first[j] + k * g second[j]) :
    (List.zipWith (fun a b => f a * g b) row last).sum =
      (List.zipWith (fun a b => f a * g b) row first).sum +
        k * (List.zipWith (fun a b => f a * g b) row second).sum := by
  induction last generalizing row first second with
  | nil =>
    obtain rfl := List.length_eq_zero_iff.mp hfirst
    obtain rfl := List.length_eq_zero_iff.mp hsecond
    simp
  | cons c last ih =>
    obtain ⟨a, first, rfl⟩ := List.exists_cons_of_length_eq_add_one hfirst
    obtain ⟨b, second, rfl⟩ := List.exists_cons_of_length_eq_add_one hsecond
    cases row with
    | nil => simp
    | cons x row =>
      have hhead : g c = g a + k * g b := h 0 (by simp)
      have htail : (List.zipWith (fun a b => f a * g b) row last).sum =
          (List.zipWith (fun a b => f a * g b) row first).sum +
            k * (List.zipWith (fun a b => f a * g b) row second).sum :=
        ih (Nat.succ.inj hfirst) (Nat.succ.inj hsecond) fun j hj => h (j + 1) (by simpa using hj)
      simp only [List.zipWith_cons_cons, List.sum_cons]
      rw [htail, hhead]
      ring

end Dot

section Commitment

variable {row : List Poly} {c : Poly}

theorem length_product {a : Poly} (hc : c.length = degree) (ha : a.length = degree) :
    (c.pointwise a).length = degree := by simp [hc, ha]

theorem allFull_addProducts {y s : List Poly} (hy : AllFull y) (hs : AllFull s)
    (hc : c.length = degree) :
    AllFull (List.zipWith (fun mask a => mask.add (c.pointwise a).untransform) y s) :=
  forall_mem_zipWith fun mask hmask a ha => by
    simp [hy mask hmask, length_untransform (length_product hc (hs a ha))]

/-- The sum of products with a response is combined as the response is. -/
theorem coeff_dot_response {y s : List Poly} (hrow : AllFull row) (hy : AllFull y) (hs : AllFull s)
    (hc : c.length = degree) (hcolumns : y.length = s.length) (i : Nat) :
    (dot row ((List.zipWith (fun mask a => mask.add (c.pointwise a).untransform) y s).map
        transform)).coeff i =
      (dot row (y.map transform)).coeff i + c.coeff i * (dot row s).coeff i := by
  rw [coeff_dot hrow (allFull_addProducts hy hs hc).map_transform, coeff_dot hrow hy.map_transform,
    coeff_dot hrow hs]
  refine sum_zipWith_combined (f := (coeff · i)) (g := (coeff · i)) (by simp [hcolumns])
    (by simp [hcolumns]) fun j hj => ?_
  simp only [List.length_map, List.length_zipWith] at hj
  have hyj : y[j].length = degree := hy _ (List.getElem_mem _)
  have hproduct : (c.pointwise s[j]).length = degree :=
    length_product hc (hs _ (List.getElem_mem _))
  have hsum := Combines.of_add hyj (length_untransform hproduct)
  simp only [List.getElem_map, List.getElem_zipWith]
  rw [hsum.transform.coeff_last, coeff_transform_untransform hproduct, coeff_pointwise, one_mul]

/-- The sum that a row of the public vector is, transformed. -/
theorem coeff_transform_public {a s2 t0 t1 : Poly} (ha : a.length = degree)
    (hs2 : s2.length = degree) (ht0 : t0.length = degree) (ht1 : t1.length = degree)
    (hpublic : ∀ i, t1.coeff i + t0.coeff i = a.untransform.coeff i + s2.coeff i) (i : Nat) :
    t1.transform.coeff i = a.coeff i + s2.transform.coeff i - t0.transform.coeff i := by
  have hwhole := Combines.of_add (length_untransform ha) hs2
  have hrest : Combines degree (-1) (add a.untransform s2) t0 t1 :=
    ⟨hwhole.length_last, ht0, ht1, fun i => by
      rw [hwhole.coeff_last]
      linear_combination hpublic i⟩
  rw [hrest.transform.coeff_last, hwhole.transform.coeff_last, coeff_transform_untransform ha]
  ring

/-- The commitment that a response gives back. With `t1` and `t0` the two parts of the public row,
it is that of the mask, less the challenge times the second secret, and with the challenge times the
dropped part added. -/
theorem coeff_commitment {y s1 : List Poly} {s2 t0 t1 : Poly} (hrow : AllFull row)
    (hy : AllFull y) (hs1 : AllFull s1) (hc : c.length = degree) (hs2 : s2.length = degree)
    (ht0 : t0.length = degree) (ht1 : t1.length = degree) (hcolumns : y.length = s1.length)
    (hpublic : ∀ i, t1.coeff i + t0.coeff i =
      (dot row (s1.map transform)).untransform.coeff i + s2.coeff i) (i : Nat) :
    let times a := (c.pointwise a).untransform
    let z := List.zipWith (fun mask s => mask.add (times s)) y (s1.map transform)
    ((dot row (z.map transform)).sub (c.pointwise t1.transform)).untransform.coeff i =
      (dot row (y.map transform)).untransform.coeff i - (times s2.transform).coeff i +
        (times t0.transform).coeff i := by
  intro times z
  have hs1' := hs1.map_transform
  have hdot := coeff_dot_response hrow hy hs1' hc (by rw [List.length_map, hcolumns])
  have hrest := coeff_transform_public (length_dot hrow hs1') hs2 ht0 ht1 hpublic
  have hz : (dot row (z.map transform)).length = degree :=
    length_dot hrow (allFull_addProducts hy hs1' hc).map_transform
  have ht0' := length_product hc (length_transform ht0)
  have ht1' := length_product hc (length_transform ht1)
  have hpart := Combines.of_sub (length_dot hrow hy.map_transform)
    (length_product hc (length_transform hs2))
  have hwhole : Combines degree 1 ((dot row (y.map transform)).sub (c.pointwise s2.transform))
      (c.pointwise t0.transform) ((dot row (z.map transform)).sub (c.pointwise t1.transform)) :=
    ⟨hpart.length_last, ht0', by rw [length_sub, hz, ht1', min_self], fun i => by
      rw [coeff_sub (hz.trans ht1'.symm), hpart.coeff_last, hdot, coeff_pointwise, coeff_pointwise,
        coeff_pointwise, hrest]
      ring⟩
  rw [hwhole.untransform.coeff_last, hpart.untransform.coeff_last]
  ring

end Commitment

end HybridTx.Dilithium
