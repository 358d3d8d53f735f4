import Mathlib.Data.List.Forall2

/-! Computations that may end in an error: what each step must have been when the whole computation
gives a value, and which step is to blame when it does not. Those on a state go on where a step has
left it. -/

namespace HybridTx

variable {ε ε' α β σ : Type}

theorem bind_apply_of_eq {first : StateM σ α} {next : α → StateM σ β} {before between : σ} {a : α}
    (h : first before = (a, between)) : (first >>= next) before = next a between := by
  simp only [bind, StateT.bind, h]

@[simp] theorem ok_bind {a : α} {next : α → Except ε β} : Except.ok a >>= next = next a := rfl

@[simp] theorem bind_eq_ok {step : Except ε α} {next : α → Except ε β} {b : β} :
    step >>= next = .ok b ↔ ∃ a, step = .ok a ∧ next a = .ok b := by
  constructor
  · intro h
    cases step with
    | error e => cases h
    | ok a => exact ⟨a, rfl, h⟩
  · rintro ⟨a, rfl, h⟩
    exact h

theorem bind_eq_error {step : Except ε α} {next : α → Except ε β} {e : ε} :
    step >>= next = .error e ↔ step = .error e ∨ ∃ a, step = .ok a ∧ next a = .error e := by
  cases step with
  | error fault => simp [bind, Except.bind]
  | ok a => simp

@[simp] theorem map_eq_ok {f : α → β} {x : Except ε α} {b : β} :
    x.map f = .ok b ↔ ∃ a, x = .ok a ∧ f a = b := by
  cases x with
  | error e => simp [Except.map]
  | ok a => simp [Except.map]

theorem map_eq_error {f : α → β} {x : Except ε α} {e : ε} :
    x.map f = .error e ↔ x = .error e := by
  cases x <;> simp [Except.map]

@[simp] theorem mapError_eq_ok {f : ε → ε'} {x : Except ε α} {a : α} :
    x.mapError f = .ok a ↔ x = .ok a := by
  cases x with
  | error e => exact ⟨nofun, nofun⟩
  | ok b => exact ⟨fun h => by cases h; rfl, fun h => by cases h; rfl⟩

theorem mapError_eq_error {f : ε → ε'} {x : Except ε α} {e' : ε'} :
    x.mapError f = .error e' ↔ ∃ e, x = .error e ∧ f e = e' := by
  cases x with
  | error e =>
    constructor
    · intro h
      cases h
      exact ⟨e, rfl, rfl⟩
    · rintro ⟨_, h, rfl⟩
      cases h
      rfl
  | ok a => exact ⟨nofun, nofun⟩

theorem mapError_bind (f : ε → ε') (x : Except ε α) (next : α → Except ε β) :
    (x >>= next).mapError f = x.mapError f >>= fun a => (next a).mapError f := by
  cases x <;> rfl

/-- A guard in front of a computation held when the whole gives a value. -/
theorem guard_eq_ok {p : Prop} [Decidable p] {e : ε} {x : Except ε α} {a : α} :
    (if p then .error e else x) = .ok a ↔ ¬p ∧ x = .ok a := by
  by_cases h : p <;> simp [h]

theorem mapError_guard {p : Prop} [Decidable p] (f : ε → ε') (e : ε) (x : Except ε α) :
    (if p then .error e else x).mapError f = if p then .error (f e) else x.mapError f := by
  split <;> rfl

/-- A list is read element by element: each gives one value, in the same order. -/
theorem mapM_eq_ok_iff_forall₂ {read : α → Except ε β} {xs : List α} {ys : List β} :
    xs.mapM read = .ok ys ↔ List.Forall₂ (fun x y => read x = .ok y) xs ys := by
  induction xs generalizing ys with
  | nil => simp [pure, Except.pure, eq_comm]
  | cons x xs ih =>
    rw [List.mapM_cons, List.forall₂_cons_left_iff]
    simp only [bind_eq_ok, ih]
    constructor
    · rintro ⟨y, hy, rest, hrest, hys⟩
      cases hys
      exact ⟨y, rest, hy, hrest, rfl⟩
    · rintro ⟨y, rest, hy, hrest, rfl⟩
      exact ⟨y, hy, rest, hrest, rfl⟩

/-- A list is read by a reader that undoes `write` exactly when `write` made its elements. -/
theorem mapM_eq_ok_iff {read : α → Except ε β} {write : β → α}
    (exact : ∀ a b, read a = .ok b ↔ a = write b) (xs : List α) (ys : List β) :
    xs.mapM read = .ok ys ↔ xs = ys.map write := by
  simp only [mapM_eq_ok_iff_forall₂, exact]
  rw [← List.forall₂_map_right_iff, List.forall₂_eq_eq_eq]

/-- A list of written elements is read back if each of them is. -/
theorem mapM_map_eq_ok {read : α → Except ε β} {write : β → α} {ys : List β}
    (h : ∀ y ∈ ys, read (write y) = .ok y) : (ys.map write).mapM read = .ok ys := by
  induction ys with
  | nil => rfl
  | cons y ys ih =>
    obtain ⟨hy, hys⟩ := List.forall_mem_cons.mp h
    rw [List.map_cons, List.mapM_cons, hy, ok_bind, ih hys]
    rfl

/-- The error that a computation ended in, if it did. -/
def fault? : Except ε α → Option ε
  | .ok _ => none
  | .error e => some e

theorem fault?_eq_some {x : Except ε α} {e : ε} : fault? x = some e ↔ x = .error e := by
  cases x <;> simp [fault?]

theorem fault?_eq_none {x : Except ε α} : fault? x = none ↔ ∃ a, x = .ok a := by
  cases x <;> simp [fault?]

theorem fault?_mapError (f : ε → ε') (x : Except ε α) :
    fault? (x.mapError f) = (fault? x).map f := by
  cases x <;> rfl

/-- Of two steps in a row the first is to blame, if it failed, and else the second, where that fails
in one way whatever it is given. -/
theorem fault?_bind {x : Except ε α} {next : α → Except ε β} {fault : Option ε}
    (h : ∀ a, x = .ok a → fault? (next a) = fault) : fault? (x >>= next) = (fault? x).or fault := by
  cases x with
  | error e => rfl
  | ok a => exact h a rfl

/-- Steps that each fail as the next of a list of checks says are to blame in the order of the
list. -/
theorem fault?_bind_check {γ : Type} {x : Except ε α} {next : α → Except ε β}
    {check : γ → Option ε} {c : γ} {later : List γ} (hx : fault? x = check c)
    (h : ∀ a, fault? (next a) = later.findSome? check) :
    fault? (x >>= next) = (c :: later).findSome? check := by
  rw [fault?_bind fun a _ => h a, List.findSome?_cons, hx]
  cases check c <;> rfl

theorem fault?_bind_ok (x : Except ε α) (f : α → β) :
    fault? (x >>= fun a => .ok (f a)) = fault? x := by
  cases x <;> rfl

/-- A list is read up to the first element that is at fault. -/
theorem fault?_mapM (read : α → Except ε β) (xs : List α) :
    fault? (xs.mapM read) = xs.findSome? fun x => fault? (read x) := by
  induction xs with
  | nil => rfl
  | cons x xs ih =>
    rw [List.mapM_cons, List.findSome?_cons]
    cases hx : read x with
    | error e => rfl
    | ok y =>
      change _ = xs.findSome? fun x => fault? (read x)
      rw [← ih]
      cases xs.mapM read <;> rfl

/-- A list is read when each of its elements is. -/
theorem exists_mapM_eq_ok {read : α → Except ε β} {xs : List α} :
    (∃ ys, xs.mapM read = .ok ys) ↔ ∀ x ∈ xs, ∃ y, read x = .ok y := by
  simp only [← fault?_eq_none, fault?_mapM, List.findSome?_eq_none_iff]

end HybridTx
