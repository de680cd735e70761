import Mathlib.Data.List.Forall2

/-!
# Results of operations that may fail

When an operation that is made of several steps has a result, each of its steps has one.  The lemmas
here take such an operation apart, and follow an operation on a state from its first step to the
rest.
-/

set_option autoImplicit false

namespace SymbolSieve

variable {ε α β : Type}

theorem map_eq_ok_iff {f : α → β} {x : Except ε α} {b : β} :
    x.map f = .ok b ↔ ∃ a, x = .ok a ∧ f a = b := by
  cases x <;> simp [Except.map]

/-- Two results that one function does not tell apart are not told apart by a function that sees
less. -/
theorem map_eq_map_of_imp {γ : Type} {f : α → β} {g : α → γ} {x y : Except ε α}
    (hfg : ∀ a b, f a = f b → g a = g b) (h : x.map f = y.map f) : x.map g = y.map g := by
  cases x with
  | error e =>
    cases y with
    | error e' => exact congrArg Except.error (Except.error.inj h)
    | ok b => cases h
  | ok a =>
    cases y with
    | error e => cases h
    | ok b => exact congrArg Except.ok (hfg a b (Except.ok.inj h))

theorem bind_eq_ok_iff {f : α → Except ε β} {x : Except ε α} {b : β} :
    (x >>= f) = .ok b ↔ ∃ a, x = .ok a ∧ f a = .ok b := by
  cases x <;> simp [bind, Except.bind]

theorem exists_map_iff {f : α → β} {x : Except ε α} :
    (∃ b, x.map f = .ok b) ↔ ∃ a, x = .ok a := by
  simp [map_eq_ok_iff]

/-- Two steps, of which the second one cannot fail, have a result if the first one has. -/
theorem exists_bind_pure_iff {f : α → β} {x : Except ε α} :
    (∃ b, (x >>= fun a => pure (f a)) = .ok b) ↔ ∃ a, x = .ok a := by
  simp [bind_eq_ok_iff, pure, Except.pure]

/-- Three steps, of which the last one cannot fail, have a result if the first two have. -/
theorem exists_bind_bind_pure_iff {γ : Type} {f : α → β → γ} {x : Except ε α} {y : Except ε β} :
    (∃ c, (x >>= fun a => y >>= fun b => pure (f a b)) = .ok c) ↔
      (∃ a, x = .ok a) ∧ ∃ b, y = .ok b := by
  cases x with
  | error e => simp [bind, Except.bind]
  | ok a => simpa [bind_eq_ok_iff] using exists_bind_pure_iff (f := f a)

/-- A step that is taken for every member of a list has results for all of them, or for none. -/
theorem mapM_eq_ok_iff {f : α → Except ε β} {xs : List α} {ys : List β} :
    xs.mapM f = .ok ys ↔ List.Forall₂ (fun x y => f x = .ok y) xs ys := by
  induction xs generalizing ys with
  | nil => cases ys <;> simp [pure, Except.pure]
  | cons x xs ih =>
    rw [List.mapM_cons, bind_eq_ok_iff, List.forall₂_cons_left_iff]
    constructor
    · rintro ⟨y, hy, hrest⟩
      obtain ⟨zs, hzs, heq⟩ := bind_eq_ok_iff.1 hrest
      obtain rfl : y :: zs = ys := by simpa [pure, Except.pure] using heq
      exact ⟨y, zs, hy, ih.1 hzs, rfl⟩
    · rintro ⟨y, zs, hy, hzs, rfl⟩
      exact ⟨y, hy, bind_eq_ok_iff.2 ⟨zs, ih.2 hzs, rfl⟩⟩

theorem exists_mapM_iff {f : α → Except ε β} {xs : List α} :
    (∃ ys, xs.mapM f = .ok ys) ↔ ∀ x ∈ xs, ∃ y, f x = .ok y := by
  induction xs with
  | nil => simp [pure, Except.pure]
  | cons x xs ih =>
    rw [List.mapM_cons, List.forall_mem_cons, ← ih]
    exact exists_bind_bind_pure_iff

/-- A step that has a result under a condition has results for a list if all members meet it. -/
theorem mapM_eq_ok_iff_of_forall {f : α → Except ε β} {P : α → Prop} {g : α → β} {xs : List α}
    (h : ∀ x ∈ xs, ∀ y, f x = .ok y ↔ P x ∧ y = g x) {ys : List β} :
    xs.mapM f = .ok ys ↔ (∀ x ∈ xs, P x) ∧ ys = xs.map g := by
  rw [mapM_eq_ok_iff]
  induction xs generalizing ys with
  | nil => simp
  | cons x xs ih =>
    have ih := @ih fun x' hx' => h x' (List.mem_cons_of_mem x hx')
    simp only [List.forall₂_cons_left_iff, h x List.mem_cons_self, ih, List.forall_mem_cons,
      List.map_cons]
    constructor
    · rintro ⟨y, zs, ⟨hx, rfl⟩, ⟨hxs, rfl⟩, rfl⟩
      exact ⟨⟨hx, hxs⟩, rfl⟩
    · rintro ⟨⟨hx, hxs⟩, rfl⟩
      exact ⟨_, _, ⟨hx, rfl⟩, ⟨hxs, rfl⟩, rfl⟩

/-! ## Operations on a state -/

section State

variable {σ : Type} {s s' : σ}

theorem run_bind {op : StateM σ α} {k : α → StateM σ β} {a : α} (h : op s = (a, s')) :
    (op >>= k) s = k a s' := by
  show k (op s).1 (op s).2 = _
  rw [h]

theorem run_lift_bind {op : StateM σ α} {k : α → ExceptT ε (StateM σ) β} {a : α}
    (h : op s = (a, s')) :
    ((liftM op : ExceptT ε (StateM σ) α) >>= k).run s = (k a).run s' := by
  show (k (op s).1).run (op s).2 = _
  rw [h]

theorem run_bind_ok {op : ExceptT ε (StateM σ) α} {k : α → ExceptT ε (StateM σ) β} {a : α}
    (h : op.run s = (.ok a, s')) : (op >>= k).run s = (k a).run s' := by
  show ExceptT.bindCont k (op.run s).1 (op.run s).2 = _
  rw [h]
  rfl

theorem run_bind_error {op : ExceptT ε (StateM σ) α} {k : α → ExceptT ε (StateM σ) β} {e : ε}
    (h : op.run s = (.error e, s')) : (op >>= k).run s = (.error e, s') := by
  show ExceptT.bindCont k (op.run s).1 (op.run s).2 = _
  rw [h]
  rfl

end State

end SymbolSieve
