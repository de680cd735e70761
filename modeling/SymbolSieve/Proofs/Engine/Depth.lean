import SymbolSieve.Proofs.Engine.Front

/-!
# How deeply changes are nested

A change is given a bound for the depth to which others may be nested in it.  The bound is the
number of changes that all listeners together are going to make.  No step of a change raises that
number, and whoever makes a change has used up one, so the bound is never reached.

## What is here

* `pending_nextReactions`: what a listener is about to do is not pending any more.
* `inherited_pending`: no change raises the number of pending changes.
* `changeWithin_congr`: every bound above that number gives the same.
* `change_eq`: a change as if there were no bound.
-/

set_option autoImplicit false

namespace SymbolSieve.Session

/-! ## Pending changes -/

/-- The number of changes that some listeners together are going to make. -/
def pendingOf (behaviors : Assoc Value Behavior) : Nat :=
  behaviors.foldr (fun b n => b.2.pending + n) 0

theorem pending_eq (s : Session) : s.pending = pendingOf s.behaviors := rfl

theorem pendingOf_put {listener : Value} {b : Behavior} (b' : Behavior)
    {behaviors : Assoc Value Behavior} (hget : Assoc.get? listener behaviors = some b) :
    pendingOf (Assoc.put listener b' behaviors) + b.pending = pendingOf behaviors + b'.pending := by
  induction behaviors with
  | nil => cases hget
  | cons e behaviors ih =>
    obtain ⟨k, c⟩ := e
    rw [Assoc.get?] at hget
    rw [Assoc.put]
    simp only [pendingOf] at ih ⊢
    split at hget
    next hk =>
      obtain rfl := Option.some.inj hget
      rw [if_pos hk]
      simp only [List.foldr_cons]
      omega
    next hk =>
      rw [if_neg hk]
      simp only [List.foldr_cons]
      have := ih hget
      omega

theorem pendingOf_put_of_none {listener : Value} (b : Behavior) {behaviors : Assoc Value Behavior}
    (hget : Assoc.get? listener behaviors = none) :
    pendingOf (Assoc.put listener b behaviors) = pendingOf behaviors + b.pending := by
  induction behaviors with
  | nil => simp [Assoc.put, pendingOf]
  | cons e behaviors ih =>
    obtain ⟨k, c⟩ := e
    rw [Assoc.get?] at hget
    rw [Assoc.put]
    simp only [pendingOf] at ih ⊢
    split at hget
    next => cases hget
    next hk =>
      rw [if_neg hk]
      simp only [List.foldr_cons]
      have := ih hget
      omega

/-- **What a listener is about to do** is not pending any more. -/
theorem pending_nextReactions (listener : Value) (s : Session) :
    (nextReactions listener s).2.pending +
      (nextReactions listener s).1.countP Reaction.isChange ≤ s.pending := by
  rw [nextReactions_eq, pending_eq, pending_eq]
  dsimp only
  rw [nextOf]
  split
  next => simp
  next afterwards _ =>
    have hquiet : (afterwards.map Reaction.quiet).countP Reaction.isChange = 0 :=
      List.countP_eq_zero.2 fun r hr => by
        obtain ⟨q, -, rfl⟩ := List.mem_map.1 hr
        exact Bool.false_ne_true
    simp [hquiet]
  next rs rest afterwards hget =>
    have hput := pendingOf_put ⟨rest, afterwards⟩ hget
    simp only [Behavior.pending, List.foldr_cons] at hput
    dsimp only
    omega

/-! ## Steps -/

theorem pending_subscribe (name : Value) (listener : String) (s : Session) :
    (subscribe name (.text listener) {} s).2.pending ≤ s.pending := by
  rw [subscribe_apply rfl, pending_eq, pending_eq]
  dsimp only
  split
  next => exact Nat.le_refl _
  next hnew =>
    rw [pendingOf_put_of_none _ (by simpa using hnew)]
    exact Nat.le_refl _

theorem behaviors_unsubscribe (listener : String) (s : Session) :
    (unsubscribe (.text listener) s).2.behaviors = s.behaviors := by
  rw [unsubscribe_apply rfl]
  cases Assoc.get? (.text listener) s.subscriptions <;> rfl

theorem behaviors_alter (name : Value) (c : Change) (s : Session) :
    (alter name c s).2.behaviors = s.behaviors := by
  obtain ⟨log, hrun⟩ := alter_apply name c s
  rw [hrun]
  cases c.apply (s.engineOf name).spec <;> rfl

/-- **No change raises the number of pending changes**, since no step does. -/
theorem inherited_pending (name : Value) :
    Inherited (fun op => ∀ s, (op s).2.pending ≤ s.pending) (fun _ => True) name where
  pure _ _ := Nat.le_refl _
  bind hop hk s := (hk _ _).trans (hop s)
  report _ _ _ := Nat.le_refl _
  subscribe := pending_subscribe name
  unsubscribe listener s := by rw [pending_eq, behaviors_unsubscribe, pending_eq]
  hear _ _ := Nat.le_refl _
  nextReactions listener k hk s :=
    (hk _ (fun _ _ => trivial) _).trans
      ((Nat.le_add_right _ _).trans (pending_nextReactions listener s))
  alter _ s := by rw [pending_eq, behaviors_alter, pending_eq]
  persist s := by rw [pending_eq, behaviors_persist, pending_eq]
  listeners hk s := hk _ s

/-! ## Bounds -/

section Congruence

variable {f g : Change → StateM Session (Except ValueFault Unit)} {bound : Nat}
  (hpending : ∀ c s, (f c s).2.pending ≤ s.pending)
  (hfg : ∀ c s, s.pending < bound → f c s = g c s) {name : Value}

include hfg in
theorem react_congr {r : Reaction} {s : Session}
    (hs : s.pending + [r].countP Reaction.isChange ≤ bound) :
    react f name r s = react g name r s := by
  match r with
  | .quiet .fail | .quiet (.unsubscribe listener) | .quiet (.subscribe listener) => rfl
  | .change c =>
    have hlt : s.pending < bound := hs
    show ((f c s).1.toBool, (f c s).2) = ((g c s).1.toBool, (g c s).2)
    rw [hfg c s hlt]

include hpending hfg

theorem reactAll_congr {rs : List Reaction} {s : Session}
    (hs : s.pending + rs.countP Reaction.isChange ≤ bound) :
    reactAll f name rs s = reactAll g name rs s := by
  induction rs generalizing s with
  | nil => rfl
  | cons r rs ih =>
    rw [← List.singleton_append, List.countP_append] at hs
    have hfirst : react f name r s = react g name r s := react_congr hfg (by omega)
    have hle := (inherited_pending name).react (fun c _ => hpending c) (fun _ _ => trivial)
      (r := r) s
    rw [reactAll_cons_apply, reactAll_cons_apply, ← hfirst, ih (by omega)]

theorem deliver_congr {listener : Value} {s : Session} (hs : s.pending ≤ bound) :
    deliver f name listener s = deliver g name listener s := by
  have hnext := pending_nextReactions listener (hear name listener s).2
  have hheard : (hear name listener s).2.pending = s.pending := rfl
  rw [deliver_apply, deliver_apply, respond_apply, respond_apply,
    reactAll_congr hpending hfg (by omega)]

/-- **Deliveries** in which all changes do the same do the same. -/
theorem deliverAll_congr {ls : List Value} {s : Session} (hs : s.pending ≤ bound) :
    deliverAll f name ls s = deliverAll g name ls s := by
  induction ls generalizing s with
  | nil => rfl
  | cons l ls ih =>
    have hfirst : deliver f name l s = deliver g name l s := deliver_congr hpending hfg hs
    have hle := (inherited_pending name).deliver (fun c _ => hpending c) l s
    show deliverAll f name ls (deliver f name l s).2 = deliverAll g name ls (deliver g name l s).2
    rw [← hfirst, ih (by omega)]

end Congruence

/-- Changes do the same if those do that are made while they are announced. -/
theorem changeBy_congr {f g : Change → StateM Session (Except ValueFault Unit)} {name : Value}
    (c : Change) {s : Session} (hpending : ∀ c s, (f c s).2.pending ≤ s.pending)
    (hfg : ∀ c t, t.pending < s.pending → f c t = g c t) :
    changeBy f name c s = changeBy g name c s := by
  have haltered := (inherited_pending name).alter (c := c) trivial s
  rw [changeBy_apply, changeBy_apply]
  generalize alter name c s = altered at haltered ⊢
  obtain ⟨fault | _, t⟩ := altered
  · rfl
  · have hstored := (inherited_pending name).persist t
    dsimp only at haltered ⊢
    generalize persist name t = stored at hstored ⊢
    obtain ⟨fault | _, u⟩ := stored
    · rfl
    · have hdelivered : announce f name u = announce g name u :=
        deliverAll_congr hpending hfg (hstored.trans haltered)
      exact congrArg (fun r : Unit × Session => (Except.ok (), r.2)) hdelivered

/-- **Every bound above the number of pending changes** gives the same. -/
theorem changeWithin_congr {n m : Nat} {name : Value} {c : Change} {s : Session}
    (hn : s.pending < n) (hm : s.pending < m) :
    changeWithin n name c s = changeWithin m name c s := by
  induction n generalizing m c s with
  | zero => cases hn
  | succ n ih =>
    obtain ⟨m, rfl⟩ := Nat.exists_eq_succ_of_ne_zero (Nat.ne_zero_of_lt hm)
    rw [changeWithin_succ, changeWithin_succ]
    refine changeBy_congr c (fun _ => (inherited_pending name).changeWithin n trivial) ?_
    exact fun c' t hlt => ih (by omega) (by omega)

/-- **A change as if there were no bound**: whoever is told of it makes changes just like it. -/
theorem change_eq (name : Value) (c : Change) (s : Session) :
    change name c s = changeBy (change name) name c s := by
  rw [change_apply]
  refine changeBy_congr c (fun _ => (inherited_pending name).changeWithin s.pending trivial) ?_
  exact fun c' t hlt => changeWithin_congr hlt (Nat.lt_succ_self _)

end SymbolSieve.Session
