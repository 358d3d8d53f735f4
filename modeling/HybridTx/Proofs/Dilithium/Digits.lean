import Mathlib.Tactic.LinearCombination
import Mathlib.Tactic.Ring
import HybridTx.Dilithium.Packing

/-! Digits of a number in base `2 ^ width`. Lists of digits are also made and used by the recursors,
which a proof that evaluates them goes through faster than equations that are compiled to
recursors. -/

namespace HybridTx.Dilithium

section Digits

variable {width : Nat} {a b values : List Nat}

theorem gather_cons (value : Nat) :
    gather width (value :: values) = value + gather width values * 2 ^ width := by
  rw [gather, List.foldr_cons, Nat.shiftLeft_eq]
  rfl

theorem gather_append :
    gather width (a ++ b) = gather width a + gather width b * 2 ^ (width * a.length) := by
  induction a with
  | nil => simp [gather]
  | cons value a ih =>
    rw [List.cons_append, gather_cons, ih, gather_cons, List.length_cons, Nat.mul_succ, Nat.pow_add]
    ring

theorem gather_lt (h : ∀ value ∈ values, value < 2 ^ width) :
    gather width values < 2 ^ (width * values.length) := by
  induction values with
  | nil => simp [gather]
  | cons value values ih =>
    obtain ⟨hvalue, hvalues⟩ := List.forall_mem_cons.mp h
    have hrest := ih hvalues
    rw [gather_cons, List.length_cons, Nat.mul_succ, Nat.pow_add]
    calc value + gather width values * 2 ^ width
        < 2 ^ width + gather width values * 2 ^ width := by omega
      _ = (gather width values + 1) * 2 ^ width := by rw [Nat.add_mul]; omega
      _ ≤ 2 ^ (width * values.length) * 2 ^ width := Nat.mul_le_mul_right _ hrest

/-- The digits of a gathered number are what was gathered. -/
theorem scatter_gather (h : ∀ value ∈ values, value < 2 ^ width) :
    scatter width values.length (gather width values) = values := by
  induction values with
  | nil => rfl
  | cons value values ih =>
    obtain ⟨hvalue, hvalues⟩ := List.forall_mem_cons.mp h
    have hlow : gather width (value :: values) % 2 ^ width = value := by
      rw [gather_cons, Nat.add_mul_mod_self_right, Nat.mod_eq_of_lt hvalue]
    have hhigh : gather width (value :: values) >>> width = gather width values := by
      rw [gather_cons, Nat.shiftRight_eq_div_pow, Nat.add_mul_div_right _ _ (Nat.two_pow_pos width),
        Nat.div_eq_of_lt hvalue, Nat.zero_add]
    rw [List.length_cons, scatter, hlow, hhigh, ih hvalues]

theorem gather_take_drop (h : ∀ value ∈ a, value < 2 ^ width) {count : Nat}
    (hcount : count ≤ a.length) :
    gather width a % 2 ^ (width * count) = gather width (a.take count) ∧
      gather width a / 2 ^ (width * count) = gather width (a.drop count) := by
  have hlength : (a.take count).length = count := List.length_take_of_le hcount
  have hlow := gather_lt fun value hvalue => h value (List.mem_of_mem_take (i := count) hvalue)
  have hsplit : gather width (a.take count ++ a.drop count) = _ := gather_append
  rw [List.take_append_drop, hlength] at hsplit
  rw [hlength] at hlow
  rw [hsplit, Nat.add_mul_mod_self_right, Nat.mod_eq_of_lt hlow,
    Nat.add_mul_div_right _ _ (Nat.two_pow_pos _), Nat.div_eq_of_lt hlow, Nat.zero_add]
  exact ⟨rfl, rfl⟩

theorem length_scatter (count number : Nat) :
    (scatter width count number).length = count := by
  induction count generalizing number with
  | zero => rfl
  | succ count ih => simp [scatter, ih]

theorem scatter_add (count count' number : Nat) :
    scatter width (count + count') number =
      scatter width count number ++ scatter width count' (number / 2 ^ (width * count)) := by
  induction count generalizing number with
  | zero => simp [scatter]
  | succ count ih =>
    rw [Nat.succ_add, scatter, ih, scatter, Nat.shiftRight_eq_div_pow, Nat.div_div_eq_div_mul,
      ← Nat.pow_add, Nat.mul_succ, Nat.add_comm width]
    rfl

/-- Digits above the last one that is asked for do not count. -/
theorem scatter_mod (count number : Nat) :
    scatter width count (number % 2 ^ (width * count)) = scatter width count number := by
  induction count generalizing number with
  | zero => rfl
  | succ count ih =>
    rw [scatter, scatter, Nat.mul_succ, Nat.add_comm, Nat.pow_add, Nat.mod_mul_right_mod,
      Nat.shiftRight_eq_div_pow, Nat.mod_mul_right_div_self, ih, ← Nat.shiftRight_eq_div_pow]

end Digits

section Digit

variable {width : Nat} {values : List Nat}

def digit (width index number : Nat) : Nat :=
  Nat.mod (Nat.shiftRight number (Nat.mul width index)) (Nat.pow 2 width)

/-- Puts a value in the place of a digit. -/
def putDigit (width index value number : Nat) : Nat :=
  Nat.sub (Nat.add number (Nat.shiftLeft value (Nat.mul width index)))
    (Nat.shiftLeft (digit width index number) (Nat.mul width index))

theorem digit_eq (index number : Nat) :
    digit width index number = number / 2 ^ (width * index) % 2 ^ width :=
  congrArg (· % 2 ^ width) (Nat.shiftRight_eq_div_pow number (width * index))

theorem digit_gather (h : ∀ value ∈ values, value < 2 ^ width) (index : Nat) :
    digit width index (gather width values) = values.getD index 0 := by
  induction values generalizing index with
  | nil => rw [digit_eq, gather, List.foldr_nil, Nat.zero_div, Nat.zero_mod, List.getD_nil]
  | cons value values ih =>
    obtain ⟨hvalue, hvalues⟩ := List.forall_mem_cons.mp h
    rw [digit_eq, gather_cons]
    cases index with
    | zero =>
      rw [Nat.mul_zero, Nat.pow_zero, Nat.div_one, Nat.add_mul_mod_self_right,
        Nat.mod_eq_of_lt hvalue, List.getD_cons_zero]
    | succ index =>
      rw [Nat.mul_succ, Nat.add_comm (width * index), Nat.pow_add, ← Nat.div_div_eq_div_mul,
        Nat.add_mul_div_right _ _ (Nat.two_pow_pos width), Nat.div_eq_of_lt hvalue, Nat.zero_add,
        ← digit_eq, ih hvalues, List.getD_cons_succ]

theorem gather_set {index : Nat} (hindex : index < values.length) (value : Nat) :
    gather width (values.set index value) + values.getD index 0 * 2 ^ (width * index) =
      gather width values + value * 2 ^ (width * index) := by
  induction values generalizing index with
  | nil => exact absurd hindex (Nat.not_lt_zero _)
  | cons first values ih =>
    cases index with
    | zero =>
      rw [List.set_cons_zero, gather_cons, gather_cons, List.getD_cons_zero]
      ring
    | succ index =>
      have hrest := ih (Nat.lt_of_succ_lt_succ hindex)
      rw [List.set_cons_succ, gather_cons, gather_cons, List.getD_cons_succ, Nat.mul_succ,
        Nat.pow_add]
      linear_combination 2 ^ width * hrest

theorem putDigit_gather (h : ∀ value ∈ values, value < 2 ^ width) {index : Nat}
    (hindex : index < values.length) (value : Nat) :
    putDigit width index value (gather width values) = gather width (values.set index value) := by
  have hset : gather width (values.set index value) + _ = _ := gather_set hindex value
  have hput : putDigit width index value (gather width values) =
      gather width values + value * 2 ^ (width * index) -
        values.getD index 0 * 2 ^ (width * index) := by
    rw [← digit_gather h, ← Nat.shiftLeft_eq, ← Nat.shiftLeft_eq]
    rfl
  rw [hput, ← hset, Nat.add_sub_cancel]

end Digit

end HybridTx.Dilithium

namespace HybridTx.Quick

variable {α β γ : Type}

noncomputable def map (f : α → β) (list : List α) : List β :=
  list.rec [] fun x _ rest => f x :: rest

noncomputable def zipWith (f : α → β → γ) (list : List α) : List β → List γ :=
  list.rec (fun _ => []) fun x _ next other => other.casesOn [] fun y other => f x y :: next other

noncomputable def take (count : Nat) : List α → List α :=
  count.rec (fun _ => []) fun _ next list => list.casesOn [] fun x list => x :: next list

noncomputable def length (list : List α) : Nat := list.rec 0 fun _ _ count => Nat.add count 1

theorem map_eq : @List.map α β = map := by
  funext f list
  induction list with
  | nil => rfl
  | cons x list ih => exact congrArg (f x :: ·) ih

theorem zipWith_eq : @List.zipWith α β γ = zipWith := by
  funext f list other
  induction list generalizing other with
  | nil => rfl
  | cons x list ih =>
    cases other with
    | nil => rfl
    | cons y other => exact congrArg (f x y :: ·) (ih other)

theorem take_eq : @List.take α = take := by
  funext count list
  induction count generalizing list with
  | zero => rfl
  | succ count ih =>
    cases list with
    | nil => rfl
    | cons x list => exact congrArg (x :: ·) (ih list)

theorem length_eq : @List.length α = length := by
  funext list
  induction list with
  | nil => rfl
  | cons x list ih => exact congrArg (· + 1) ih

end HybridTx.Quick

namespace HybridTx.Dilithium

section Pick

variable {width : Nat} {read : Nat → Option Nat}

/-- The values that `read` finds in the first `count` digits of a number, in front of `rest`. -/
noncomputable def pick (width : Nat) (read : Nat → Option Nat) (count : Nat) :
    (number : Nat) → (rest : List Nat) → List Nat :=
  count.rec (fun _ rest => rest) fun _ next number rest =>
    (read (Nat.mod number (Nat.pow 2 width))).rec (next (Nat.shiftRight number width) rest)
      fun value => value :: next (Nat.shiftRight number width) rest

theorem pick_eq (count number : Nat) (rest : List Nat) :
    pick width read count number rest = (scatter width count number).filterMap read ++ rest := by
  induction count generalizing number with
  | zero => rfl
  | succ count ih =>
    have hstep : pick width read (count + 1) number rest =
        (read (number % 2 ^ width)).rec (pick width read count (number >>> width) rest)
          fun value => value :: pick width read count (number >>> width) rest := rfl
    rw [hstep, ih, scatter, List.filterMap_cons]
    cases read (number % 2 ^ width) with
    | none => rfl
    | some value => rfl

theorem pick_some (f : Nat → Nat) (count number : Nat) :
    pick width (fun digit => some (f digit)) count number [] =
      (scatter width count number).map f := by
  rw [pick_eq, List.append_nil, List.filterMap_eq_map']

/-- The number whose digits `f` makes of values. -/
noncomputable def stack (width : Nat) (f : Nat → Nat) (values : List Nat) : Nat :=
  values.rec 0 fun value _ number => Nat.add (f value) (Nat.shiftLeft number width)

theorem stack_eq (f : Nat → Nat) (values : List Nat) :
    stack width f values = gather width (values.map f) := by
  induction values with
  | nil => rfl
  | cons value values ih => exact congrArg (f value + · <<< width) ih

end Pick

end HybridTx.Dilithium
