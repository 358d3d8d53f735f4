import HybridTx.Rlp.Encode

/-! How deep values are nested: the values inside a value, each with the number of lists around it,
and `depth` as the largest of these numbers. -/

namespace HybridTx.Rlp.Item

/-- `outer.Inside levels inner`: `inner` lies in `outer`, inside exactly `levels` lists. -/
inductive Inside : Item → Nat → Item → Prop
  | root (item : Item) : Inside item 0 item
  | member {items : List Item} {item inner : Item} {levels : Nat} :
      item ∈ items → Inside item levels inner → Inside (.list items) (levels + 1) inner

theorem encodeAll_eq_map (items : List Item) : encodeAll items = items.map encode := by
  induction items with
  | nil => rfl
  | cons item items ih => rw [encodeAll, ih, List.map_cons]

theorem depthAll_le_iff {items : List Item} {levels : Nat} :
    depthAll items ≤ levels ↔ ∀ item ∈ items, item.depth < levels := by
  induction items with
  | nil => simp [depthAll]
  | cons item items ih => rw [depthAll, Nat.max_le, ih, Nat.add_one_le_iff, List.forall_mem_cons]

theorem depth_list_lt_iff {items : List Item} {levels : Nat} :
    (Item.list items).depth < levels + 1 ↔ ∀ item ∈ items, item.depth < levels := by
  rw [depth, Nat.lt_succ_iff, depthAll_le_iff]

theorem Inside.le_depth {outer inner : Item} {levels : Nat} (h : outer.Inside levels inner) :
    levels ≤ outer.depth := by
  induction h with
  | root => exact Nat.zero_le _
  | @member items item _ levels hmem _ ih =>
    have hlt := depth_list_lt_iff.mp (Nat.lt_succ_self (Item.list items).depth) item hmem
    omega

/-- Some value lies as deep as the depth says. -/
theorem exists_inside_depth (levels : Nat) (outer : Item) (h : levels ≤ outer.depth) :
    ∃ inner, outer.Inside levels inner := by
  induction levels generalizing outer with
  | zero => exact ⟨outer, .root outer⟩
  | succ levels ih =>
    cases outer with
    | bytes payload => simp [depth] at h
    | list items =>
      have hdeep : ¬(Item.list items).depth < levels + 1 := Nat.not_lt.mpr h
      simp only [depth_list_lt_iff, Classical.not_forall, Nat.not_lt] at hdeep
      obtain ⟨item, hmem, hdepth⟩ := hdeep
      obtain ⟨inner, hinner⟩ := ih item hdepth
      exact ⟨inner, .member hmem hinner⟩

/-- The depth bounds how deep values lie, and no smaller number does. -/
theorem depth_le_iff {outer : Item} {bound : Nat} :
    outer.depth ≤ bound ↔ ∀ levels inner, outer.Inside levels inner → levels ≤ bound := by
  constructor
  · intro h levels inner hinner
    exact Nat.le_trans hinner.le_depth h
  · intro h
    obtain ⟨inner, hinner⟩ := exists_inside_depth outer.depth outer (Nat.le_refl _)
    exact h _ inner hinner

end HybridTx.Rlp.Item
