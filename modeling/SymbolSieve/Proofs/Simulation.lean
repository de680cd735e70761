/-!
# Operations seen from outside

Much of a state does not matter for what is asked about it.  A view of the state leaves that out,
and an operation on the state is simulated by one on the view if both give the same result and the
views agree afterwards.  Simulations compose like the operations do, so a long operation is followed
by following its steps.

## What is here

* `Simulates`: an operation on states is simulated by one on views, as long as the states are good.
* `Simulates.result_eq`, `view_after`: what an operation gives, and what is seen after it.
* `Simulates.bind`, `bindExcept`, `bindLift`, `mapM`: the steps of an operation, one after
  another.
* `Simulates.trans`: what is seen is looked at from farther away.
* `Alike`: two operations do the same, as far as can be seen, on states that look the same.
-/

set_option autoImplicit false

namespace SymbolSieve

variable {σ τ ε α β : Type}

/-- An operation on good states leads to good states, and an operation on views does the same with
their views. -/
def Simulates (good : σ → Prop) (view : σ → τ) (op : StateM σ α) (f : τ → α × τ) : Prop :=
  ∀ s, good s → good (op s).2 ∧ f (view s) = ((op s).1, view (op s).2)

namespace Simulates

variable {good : σ → Prop} {view : σ → τ}

section Facts

variable {op : StateM σ α} {f : τ → α × τ} {s : σ}

theorem good_after (h : Simulates good view op f) (hs : good s) : good (op s).2 := (h s hs).1

/-- The result of a simulated operation. -/
theorem result_eq (h : Simulates good view op f) (hs : good s) : (op s).1 = (f (view s)).1 :=
  (congrArg Prod.fst (h s hs).2).symm

/-- What is seen after a simulated operation. -/
theorem view_after (h : Simulates good view op f) (hs : good s) : view (op s).2 = (f (view s)).2 :=
  (congrArg Prod.snd (h s hs).2).symm

end Facts

theorem pure (a : α) : Simulates good view (Pure.pure a) fun v => (a, v) :=
  fun _ hs => ⟨hs, rfl⟩

/-- An operation changes nothing that is seen. -/
theorem of_view_eq {op : StateM σ Unit} (h : ∀ s, good s → good (op s).2 ∧ view (op s).2 = view s) :
    Simulates good view op fun v => ((), v) :=
  fun s hs => ⟨(h s hs).1, by rw [(h s hs).2]⟩

theorem bind {op : StateM σ α} {f : τ → α × τ} {k : α → StateM σ β} {g : α → τ → β × τ}
    (h : Simulates good view op f) (hk : ∀ a, Simulates good view (k a) (g a)) :
    Simulates good view (op >>= k) fun v => g (f v).1 (f v).2 := by
  intro s hs
  obtain ⟨hgood, heq⟩ := h s hs
  obtain ⟨hgood', heq'⟩ := hk (op s).1 (op s).2 hgood
  refine ⟨hgood', ?_⟩
  dsimp only
  rw [heq]
  exact heq'

/-- An operation that may fail goes on only where it did not. -/
theorem bindExcept {op : ExceptT ε (StateM σ) α} {f : τ → Except ε α × τ}
    {k : α → ExceptT ε (StateM σ) β} {g : α → τ → Except ε β × τ}
    (h : Simulates good view op.run f) (hk : ∀ a, Simulates good view (k a).run (g a)) :
    Simulates good view (op >>= k).run fun v => match (f v).1 with
      | .ok a => g a (f v).2
      | .error e => (.error e, (f v).2) := by
  refine (h.bind (k := ExceptT.bindCont k)
    (g := fun r v => match r with
      | .ok a => g a v
      | .error e => (.error e, v)) fun r => ?_)
  cases r with
  | ok a => exact hk a
  | error e => exact Simulates.pure (Except.error e)

/-- A first step that cannot fail, in an operation that may. -/
theorem bindLift {op : StateM σ α} {f : τ → α × τ} {k : α → ExceptT ε (StateM σ) β}
    {g : α → τ → Except ε β × τ} (h : Simulates good view op f)
    (hk : ∀ a, Simulates good view (k a).run (g a)) :
    Simulates good view ((liftM op : ExceptT ε (StateM σ) α) >>= k).run
      fun v => g (f v).1 (f v).2 :=
  h.bind hk

theorem adapt {ε' : Type} {op : ExceptT ε (StateM σ) α} {f : τ → Except ε α × τ}
    (h : Simulates good view op.run f) (e : ε → ε') :
    Simulates good view (op.adapt e).run fun v => ((f v).1.mapError e, (f v).2) := by
  intro s hs
  obtain ⟨hgood, heq⟩ := h s hs
  refine ⟨hgood, ?_⟩
  dsimp only
  rw [heq]
  rfl

theorem congr {op : StateM σ α} {f g : τ → α × τ} (h : Simulates good view op f)
    (heq : ∀ v, f v = g v) : Simulates good view op g := by
  obtain rfl : f = g := funext heq
  exact h

theorem map {op : StateM σ α} {f : τ → α × τ} (h : Simulates good view op f) (g : α → β) :
    Simulates good view (g <$> op) fun v => (g (f v).1, (f v).2) := by
  intro s hs
  obtain ⟨hgood, heq⟩ := h s hs
  refine ⟨hgood, ?_⟩
  dsimp only
  rw [heq]
  rfl

/-- An operation for every member of a list, one after the other. -/
theorem mapM {op : α → StateM σ β} {f : α → StateM τ β}
    (h : ∀ a, Simulates good view (op a) (f a)) (as : List α) :
    Simulates good view (as.mapM op) (as.mapM f) := by
  induction as with
  | nil => exact .pure []
  | cons a as ih =>
    rw [List.mapM_cons, List.mapM_cons]
    exact (h a).bind fun b => ih.bind fun bs => .pure (b :: bs)

/-- What is seen of an operation may itself be seen from farther away. -/
theorem trans {υ : Type} {good' : τ → Prop} {view' : τ → υ} {op : StateM σ α} {f : τ → α × τ}
    {g : υ → α × υ} (h : Simulates good view op f) (h' : Simulates good' view' f g) :
    Simulates (fun s => good s ∧ good' (view s)) (fun s => view' (view s)) op g := by
  rintro s ⟨hgood, hgood'⟩
  obtain ⟨hafter, heq⟩ := h s hgood
  obtain ⟨hafter', heq'⟩ := h' (view s) hgood'
  rw [heq] at hafter' heq'
  exact ⟨⟨hafter, hafter'⟩, heq'⟩

end Simulates

/-! ## States that look the same -/

/-- Two operations on good states that look the same give the same result, and lead to good states
that look the same. -/
def Alike (good : σ → Prop) (view : σ → τ) (op op' : StateM σ α) : Prop :=
  ∀ s t, good s → good t → view s = view t →
    (op s).1 = (op' t).1 ∧ view (op s).2 = view (op' t).2 ∧ good (op s).2 ∧ good (op' t).2

/-- An operation that is simulated by one on views does the same on states that look the same. -/
theorem Simulates.alike {good : σ → Prop} {view : σ → τ} {op : StateM σ α} {f : τ → α × τ}
    (h : Simulates good view op f) : Alike good view op op := by
  intro s t hs ht heq
  refine ⟨?_, ?_, h.good_after hs, h.good_after ht⟩
  · rw [h.result_eq hs, h.result_eq ht, heq]
  · rw [h.view_after hs, h.view_after ht, heq]

namespace Alike

variable {good : σ → Prop} {view : σ → τ}

theorem pure (a : α) : Alike good view (Pure.pure a) (Pure.pure a) :=
  fun _ _ hs ht heq => ⟨rfl, heq, hs, ht⟩

/-- A step whose results have a property, and then another one. -/
theorem bindOf {op op' : StateM σ α} {k k' : α → StateM σ β} {P : α → Prop}
    (h : Alike good view op op') (hP : ∀ s, good s → P (op s).1)
    (hk : ∀ a, P a → Alike good view (k a) (k' a)) :
    Alike good view (op >>= k) (op' >>= k') := by
  intro s t hs ht heq
  obtain ⟨hresult, hview, hs', ht'⟩ := h s t hs ht heq
  have hrest := hk (op s).1 (hP s hs) (op s).2 (op' t).2 hs' ht' hview
  have hrun' : (op' >>= k') t = k' (op s).1 (op' t).2 := congrArg (k' · (op' t).2) hresult.symm
  rw [hrun']
  exact hrest

theorem bind {op op' : StateM σ α} {k k' : α → StateM σ β} (h : Alike good view op op')
    (hk : ∀ a, Alike good view (k a) (k' a)) : Alike good view (op >>= k) (op' >>= k') :=
  h.bindOf (P := fun _ => True) (fun _ _ => trivial) fun a _ => hk a

/-- An operation that begins with a look at the state. -/
theorem get_bind {k k' : σ → StateM σ α}
    (hk : ∀ s t, good s → good t → view s = view t → Alike good view (k s) (k' t)) :
    Alike good view (get >>= k) (get >>= k') :=
  fun s t hs ht heq => hk s t hs ht heq s t hs ht heq

/-- An operation for every member of a list, one after the other. -/
theorem mapM {op : α → StateM σ β} {as : List α} (h : ∀ a ∈ as, Alike good view (op a) (op a)) :
    Alike good view (as.mapM op) (as.mapM op) := by
  induction as with
  | nil => exact .pure []
  | cons a as ih =>
    rw [List.mapM_cons]
    exact (h a List.mem_cons_self).bind fun b =>
      (ih fun a' ha => h a' (List.mem_cons_of_mem _ ha)).bind fun bs => .pure (b :: bs)

end Alike

end SymbolSieve
