import HybridTx.Proofs.Bytes.Little
import HybridTx.Proofs.Dilithium.Digits
import HybridTx.Proofs.Dilithium.Ring

/-! Packed polynomials and hints are read back. -/

namespace HybridTx.Dilithium

section Values

variable {width : Nat} {values : List Nat}

@[simp] theorem length_packGroups (groups : Nat) :
    (packGroups width groups values).length = groups * width := by
  induction groups generalizing values with
  | zero => simp [packGroups]
  | succ groups ih => simp [packGroups, ih, Nat.add_mul, Nat.add_comm]

theorem unpackGroups_packGroups {groups : Nat} (hlength : values.length = 8 * groups)
    (h : ∀ value ∈ values, value < 2 ^ width) (rest : Bytes) :
    unpackGroups width groups (packGroups width groups values ++ rest) = values := by
  induction groups generalizing values with
  | zero =>
    obtain rfl := List.length_eq_zero_iff.mp hlength
    rfl
  | succ groups ih =>
    have hfirst : (values.take 8).length = 8 := by rw [List.length_take]; omega
    have hsmall : ∀ value ∈ values.take 8, value < 2 ^ width :=
      fun value hvalue => h value (List.mem_of_mem_take hvalue)
    have hnumber : gather width (values.take 8) < 256 ^ width := by
      have hlt := gather_lt hsmall
      rwa [hfirst, Nat.mul_comm, Nat.pow_mul] at hlt
    have hread : scatter width 8 (Bytes.littleToNat (Bytes.littleEndian width
        (gather width (values.take 8)))) = values.take 8 := by
      have hgathered := scatter_gather hsmall
      rwa [hfirst, ← Nat.mod_eq_of_lt hnumber, ← Bytes.littleToNat_littleEndian] at hgathered
    have hdropped : (values.drop 8).length = 8 * groups := by rw [List.length_drop]; omega
    have hlater := ih hdropped fun value hvalue => h value (List.mem_of_mem_drop hvalue)
    rw [packGroups, unpackGroups, List.append_assoc, List.take_left' (by simp),
      List.drop_left' (by simp), hread, hlater, List.take_append_drop]

theorem length_packValues : (packValues width values).length = Parameters.packedSize width :=
  length_packGroups _

theorem unpackValues_packValues (hlength : values.length = degree)
    (h : ∀ value ∈ values, value < 2 ^ width) :
    unpackValues width (packValues width values) = values := by
  have hgroups : values.length = 8 * (degree / 8) := hlength
  have hread := unpackGroups_packGroups hgroups h []
  rwa [List.append_nil] at hread

/-- Coefficients that can be packed as their distance from `top`. -/
def Packable (width top : Nat) (a : Poly) : Prop :=
  a.length = degree ∧ ∀ x ∈ a, x < modulus ∧ difference top x < 2 ^ width

theorem difference_difference {top x : Nat} (h : x < modulus) :
    difference top (difference top x) = x := by
  apply eq_of_cast_eq (difference_lt _ _) h
  rw [cast_difference, cast_difference, sub_sub_cancel]

theorem length_packBelow {top : Nat} {a : Poly} :
    (packBelow width top a).length = Parameters.packedSize width := length_packValues

theorem unpackBelow_packBelow {top : Nat} {a : Poly} (h : Packable width top a) :
    unpackBelow width top (packBelow width top a) = a := by
  obtain ⟨hlength, hsmall⟩ := h
  have hfit : ∀ value ∈ a.map (difference top), value < 2 ^ width := by
    intro value hvalue
    obtain ⟨x, hx, rfl⟩ := List.mem_map.mp hvalue
    exact (hsmall x hx).2
  have hread := unpackValues_packValues (by rw [List.length_map, hlength]) hfit
  rw [unpackBelow, packBelow, hread, List.map_map]
  have hback : ∀ x ∈ a, (difference top ∘ difference top) x = id x := by
    intro x hx
    rw [Function.comp_apply, difference_difference (hsmall x hx).1, id_eq]
  rw [List.map_congr_left hback, List.map_id]

end Values

section Vectors

variable {size : Nat} {pack : Poly → Bytes}

theorem pieces_flatMap {vector : List Poly} (h : ∀ a ∈ vector, (pack a).length = size)
    (rest : Bytes) : pieces size vector.length (vector.flatMap pack ++ rest) = vector.map pack := by
  induction vector with
  | nil => rfl
  | cons a vector ih =>
    obtain ⟨ha, hvector⟩ := List.forall_mem_cons.mp h
    rw [List.length_cons, pieces, List.flatMap_cons, List.append_assoc, List.take_left' ha,
      List.drop_left' ha, ih hvector, List.map_cons]

/-- Polynomials that were packed one behind the other are read back, whatever follows. -/
theorem unpackVector_flatMap (width : Nat) (pack : Poly → Bytes) (unpack : Bytes → Poly)
    {vector : List Poly} {count : Nat} (hcount : vector.length = count)
    (h : ∀ a ∈ vector, (pack a).length = Parameters.packedSize width ∧ unpack (pack a) = a)
    (rest : Bytes) : unpackVector width count unpack (vector.flatMap pack ++ rest) = vector := by
  rw [unpackVector, ← hcount, pieces_flatMap (fun a ha => (h a ha).1), List.map_map]
  conv_rhs => rw [← List.map_id vector]
  exact List.map_congr_left fun a ha => (h a ha).2

theorem length_flatMap_pack {vector : List Poly} (h : ∀ a ∈ vector, (pack a).length = size) :
    (vector.flatMap pack).length = vector.length * size := by
  induction vector with
  | nil => simp
  | cons a vector ih =>
    obtain ⟨ha, hvector⟩ := List.forall_mem_cons.mp h
    rw [List.flatMap_cons, List.length_append, ha, ih hvector, List.length_cons, Nat.add_mul]
    omega

end Vectors

section Hints

variable {hints : List Bool} {index : Nat}

theorem mem_onesFrom {place : Nat} :
    place ∈ onesFrom index hints ↔ ∃ i, place = index + i ∧ hints[i]? = some true := by
  induction hints generalizing index with
  | nil => simp [onesFrom]
  | cons hint hints ih =>
    have hsplit : (∃ i, place = index + i ∧ (hint :: hints)[i]? = some true) ↔
        place = index ∧ hint = true ∨ ∃ i, place = index + 1 + i ∧ hints[i]? = some true := by
      constructor
      · rintro ⟨i, rfl, hi⟩
        cases i with
        | zero => exact .inl ⟨rfl, by simpa using hi⟩
        | succ i => exact .inr ⟨i, by omega, by simpa using hi⟩
      · rintro (⟨rfl, rfl⟩ | ⟨i, rfl, hi⟩)
        · exact ⟨0, rfl, rfl⟩
        · exact ⟨i + 1, by omega, by simpa using hi⟩
    rw [hsplit, ← ih]
    cases hint <;> simp [onesFrom]

theorem length_onesFrom : (onesFrom index hints).length = hints.count true := by
  induction hints generalizing index with
  | nil => rfl
  | cons hint hints ih => cases hint <;> simp [onesFrom, ih]

theorem increasing_cons {a : Nat} {numbers : List Nat} (ha : ∀ b ∈ numbers, a < b)
    (h : increasing numbers = true) : increasing (a :: numbers) = true := by
  cases numbers with
  | nil => rfl
  | cons b numbers =>
    have hab : a < b := ha b List.mem_cons_self
    simp [increasing, hab, h]

theorem increasing_onesFrom : increasing (onesFrom index hints) = true := by
  induction hints generalizing index with
  | nil => rfl
  | cons hint hints ih =>
    cases hint with
    | false => exact ih
    | true =>
      refine increasing_cons (fun b hb => ?_) ih
      obtain ⟨i, rfl, -⟩ := mem_onesFrom.mp hb
      omega

/-- The places of the ones tell the hints. -/
theorem map_contains_onesFrom (hints : List Bool) :
    (List.range hints.length).map (onesFrom 0 hints).contains = hints := by
  apply List.ext_getElem (by simp)
  intro i hi hi'
  rw [List.getElem_map, List.getElem_range, Bool.eq_iff_iff, List.contains_iff_mem, mem_onesFrom]
  constructor
  · rintro ⟨j, hij, hj⟩
    rw [Nat.zero_add] at hij
    subst hij
    exact (List.getElem?_eq_some_iff.mp hj).2
  · intro h
    exact ⟨i, by omega, by simp [hi', h]⟩

theorem length_runningCounts (count : Nat) (places : List (List Nat)) :
    (runningCounts count places).length = places.length := by
  induction places generalizing count with
  | nil => rfl
  | cons first places ih => simp [runningCounts, ih]

theorem le_of_mem_runningCounts {count number : Nat} {places : List (List Nat)}
    (h : number ∈ runningCounts count places) : number ≤ count + places.flatten.length := by
  induction places generalizing count with
  | nil => cases h
  | cons first places ih =>
    rw [List.flatten_cons, List.length_append]
    obtain rfl | h := List.mem_cons.mp h
    · omega
    · have := ih h
      omega

/-- The places of the ones are read back from their running counts. -/
theorem unpackPlaces_runningCounts {places : List (List Nat)} {rest : List Nat} (used : Nat)
    (hplaces : ∀ first ∈ places, increasing first = true) (hrest : ∀ number ∈ rest, number = 0) :
    unpackPlaces used (runningCounts used places) (places.flatten ++ rest) = some places := by
  induction places generalizing used with
  | nil =>
    have hall : rest.all (· == 0) = true := by simpa using hrest
    simp [runningCounts, unpackPlaces, hall]
  | cons first places ih =>
    obtain ⟨hfirst, hlater⟩ := List.forall_mem_cons.mp hplaces
    have htake : (first ++ (places.flatten ++ rest)).take first.length = first := List.take_left
    have hdrop : (first ++ (places.flatten ++ rest)).drop first.length = places.flatten ++ rest :=
      List.drop_left
    rw [runningCounts, unpackPlaces, if_neg (by omega), Nat.add_sub_cancel_left, List.flatten_cons,
      List.append_assoc, htake, hdrop, ih _ hlater]
    simp [hfirst]

end Hints

theorem length_flatten_onesFrom {hints : List (List Bool)} :
    (hints.map (onesFrom 0)).flatten.length = hints.flatten.count true := by
  induction hints with
  | nil => rfl
  | cons first hints ih => simp [length_onesFrom, ih]

/-- Hints are read back when no more are set than there is room for. -/
theorem unpackHints_packHints {p : Parameters} {hints : List (List Bool)} (hroom : p.maxHints < 256)
    (hlength : ∀ hint ∈ hints, hint.length = degree)
    (hcount : hints.flatten.count true ≤ p.maxHints) :
    (packHints p hints).length = p.maxHints + hints.length ∧
      unpackHints p (packHints p hints) = some hints := by
  let places := hints.map (onesFrom 0)
  let fill := List.replicate (p.maxHints - places.flatten.length) 0
  let counts := runningCounts 0 places
  have hall : places.flatten.length ≤ p.maxHints := by
    rw [length_flatten_onesFrom]
    exact hcount
  have hbody : (places.flatten ++ fill).length = p.maxHints := by
    simp only [fill, List.length_append, List.length_replicate]
    omega
  have hcounts : counts.length = hints.length := by simp [counts, places, length_runningCounts]
  have hpacked : packHints p hints = ((places.flatten ++ fill) ++ counts).map UInt8.ofNat := rfl
  have hsmall : ∀ number ∈ (places.flatten ++ fill) ++ counts, number < 256 := by
    intro number hnumber
    obtain (hplace | hfill) | hcounted := by simpa only [List.mem_append] using hnumber
    · obtain ⟨_, hmem, hplace⟩ := List.mem_flatten.mp hplace
      obtain ⟨hint, hhint, rfl⟩ := List.mem_map.mp hmem
      obtain ⟨i, rfl, hi⟩ := mem_onesFrom.mp hplace
      have hlt := (List.getElem?_eq_some_iff.mp hi).1
      rw [hlength hint hhint, degree] at hlt
      omega
    · rw [List.eq_of_mem_replicate hfill]
      omega
    · have := le_of_mem_runningCounts hcounted
      omega
  have hnumbers : (packHints p hints).map UInt8.toNat = (places.flatten ++ fill) ++ counts := by
    rw [hpacked, List.map_map]
    conv_rhs => rw [← List.map_id ((places.flatten ++ fill) ++ counts)]
    refine List.map_congr_left fun number hnumber => ?_
    rw [Function.comp_apply, UInt8.toNat_ofNat', Nat.mod_eq_of_lt (hsmall number hnumber), id]
  have hread : unpackPlaces 0 counts (places.flatten ++ fill) = some places :=
    unpackPlaces_runningCounts 0 (by simp [places, increasing_onesFrom])
      fun number hnumber => List.eq_of_mem_replicate hnumber
  refine ⟨by rw [hpacked, List.length_map, List.length_append, hbody, hcounts], ?_⟩
  rw [unpackHints]
  simp only [hnumbers]
  rw [List.drop_left' hbody, List.take_left' hbody, hread, Option.map_some, Option.some.injEq,
    List.map_map]
  conv_rhs => rw [← List.map_id hints]
  refine List.map_congr_left fun hint hhint => ?_
  have htold := map_contains_onesFrom hint
  rwa [hlength hint hhint] at htold

end HybridTx.Dilithium
