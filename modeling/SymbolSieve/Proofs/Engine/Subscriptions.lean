import SymbolSieve.Proofs.Engine.Announcements

/-!
# Ending a subscription twice

Whoever subscribes a listener receives a function that ends the subscription, and may well call it
more than once.  One would expect only the first call to do anything.  But the function knows the
listener, not the subscription it came from: it takes the listener out of the engine whenever the
listener is there.  So a second call does nothing as long as nobody has subscribed the listener
again, and it ends the newer subscription if somebody has.

## What is here

* `mem_registered_iff`: who is registered, by the last operation about a listener.
* `listeners_after_subscriptions`: who is subscribed after subscriptions and their ends.
* `Call`: subscribing a listener, and calling a function that a subscription has returned;
  `opsOf`, what such calls do to an engine.
* `Called`, `Resubscribed`: a function has been called, and its listener has come back since.
* `cancel_again_iff`: exactly when calling a function once more changes nothing.
-/

set_option autoImplicit false

namespace SymbolSieve

namespace Session

/-! ## The last operation about a listener -/

theorem mem_registered_cons {op : Op} {ops : List Op} {l : String} :
    l ∈ registered (op :: ops) ↔
      (op = .subscribe l ∧ ∀ op' ∈ ops, op'.ends l = false) ∨ l ∈ registered ops := by
  match op with
  | .unsubscribe _ | .mutate _ => simp [registered]
  | .subscribe l' =>
    have hany : ops.any (·.ends l') = false ↔ ∀ op' ∈ ops, op'.ends l' = false := by simp
    rw [registered]
    split
    next hends =>
      refine ⟨.inr, fun h => h.resolve_left ?_⟩
      rintro ⟨heq, hops⟩
      cases heq
      exact absurd hends (Bool.eq_false_iff.1 (hany.2 hops))
    next hends =>
      have hops := hany.1 (Bool.eq_false_iff.2 hends)
      by_cases hself : l = l'
      · subst hself
        simpa using .inl hops
      · have hne : l' ≠ l := fun heq => hself heq.symm
        simp [hself, hne]

/-- **Who is registered**: a listener that subscribed and did not end that later. -/
theorem mem_registered_iff {ops : List Op} {l : String} :
    l ∈ registered ops ↔ ∃ before after, ops = before ++ .subscribe l :: after ∧
      ∀ op ∈ after, op.ends l = false := by
  induction ops with
  | nil => simp [registered]
  | cons op ops ih =>
    rw [mem_registered_cons, ih]
    constructor
    · rintro (⟨rfl, hops⟩ | ⟨before, after, rfl, hafter⟩)
      · exact ⟨[], ops, rfl, hops⟩
      · exact ⟨op :: before, after, rfl, hafter⟩
    · rintro ⟨before, after, heq, hafter⟩
      rcases List.cons_eq_append_iff.1 heq with ⟨-, hfirst⟩ | ⟨rest, -, hrest⟩
      · obtain ⟨hop, hops⟩ := List.cons.inj hfirst
        exact .inl ⟨hop.symm, hops ▸ hafter⟩
      · exact .inr ⟨rest, after, hrest, hafter⟩

/-! ## Subscriptions and their ends -/

/-- Whether an operation leaves the filters alone. -/
def Op.IsSubscription : Op → Prop
  | .subscribe _ | .unsubscribe _ => True
  | .mutate _ => False

variable {name : String} {behave : String → Behavior} {s : Session}

theorem stage_perform_of_subscription {op : Op} (hop : op.IsSubscription) (s : Session) :
    stage name (op.perform name behave s).2 = (Stage.perform op (stage name s)).2 := by
  match op with
  | .subscribe l =>
    show stage name (subscribe (.text name) (.text l) (behave l) s).2 = _
    rw [subscribe_apply rfl]
    exact stage_enlist l s
  | .unsubscribe l => exact stage_setEngine name _ s

/-- **Who is subscribed** after subscriptions and their ends, whatever the listeners do when they
are called. -/
theorem listeners_after_subscriptions {ops : List Op} (hops : ∀ op ∈ ops, op.IsSubscription)
    (hs : (s.engineOf (.text name)).listeners = []) :
    ((after name behave ops s).engineOf (.text name)).listeners =
      (registered ops).map .text := by
  have hstage : ∀ t, stage name (after name behave ops t) = (stage name t).after ops := by
    induction ops with
    | nil => exact fun t => rfl
    | cons op ops ih =>
      intro t
      obtain ⟨hop, hrest⟩ := List.forall_mem_cons.1 hops
      refine (ih hrest _).trans ?_
      rw [stage_perform_of_subscription hop]
      rfl
  exact (congrArg Stage.listeners (hstage s)).trans (listeners_after ops hs)

/-! ## Functions that end a subscription -/

/-- What is done with the subscriptions of an engine. -/
inductive Call where
  | subscribe (listener : String)
  /-- Calls the function that a subscription has returned; the subscriptions are counted from 0. -/
  | cancel (i : Nat)

/-- The listener whose subscription ends when the function that a call returns is called. -/
def Call.given? : Call → Option String
  | .subscribe l => some l
  | .cancel _ => none

/-- The listeners of the functions that subscriptions have returned, in order. -/
def given (calls : List Call) : List String := calls.filterMap Call.given?

/-- What calls do to an engine, when there are functions already that end the subscriptions of some
listeners.  Nothing can be done with a function that has not been returned yet. -/
def opsFrom (functions : List String) : List Call → List Op
  | [] => []
  | .subscribe l :: calls => .subscribe l :: opsFrom (functions ++ [l]) calls
  | .cancel i :: calls => (functions[i]?.map .unsubscribe).toList ++ opsFrom functions calls

/-- What a history of calls does to an engine that nobody has subscribed to yet. -/
def opsOf (calls : List Call) : List Op := opsFrom [] calls

theorem given_append (calls later : List Call) :
    given (calls ++ later) = given calls ++ given later := List.filterMap_append

theorem opsFrom_append (functions : List String) (calls later : List Call) :
    opsFrom functions (calls ++ later) =
      opsFrom functions calls ++ opsFrom (functions ++ given calls) later := by
  induction calls generalizing functions with
  | nil => simp [opsFrom, given]
  | cons call calls ih =>
    match call with
    | .subscribe l => simp [opsFrom, given, Call.given?, ih]
    | .cancel i =>
      have hgiven : given (.cancel i :: calls) = given calls := rfl
      simp [opsFrom, hgiven, ih]

theorem isSubscription_of_mem_opsFrom {functions : List String} {calls : List Call} {op : Op}
    (h : op ∈ opsFrom functions calls) : op.IsSubscription := by
  induction calls generalizing functions with
  | nil => cases h
  | cons call calls ih =>
    match call with
    | .subscribe l =>
      rcases List.mem_cons.1 h with rfl | h
      · trivial
      · exact ih h
    | .cancel i =>
      rcases List.mem_append.1 h with h | h
      · obtain ⟨l, -, rfl⟩ := Option.map_eq_some_iff.1 (Option.mem_toList.1 h)
        trivial
      · exact ih h

/-- The function that a subscription of a listener has returned was called later on. -/
def Called (calls : List Call) (i : Nat) (l : String) : Prop :=
  ∃ before after, calls = before ++ .cancel i :: after ∧ (given before)[i]? = some l

/-- A listener has come back: after one of its functions was called it was subscribed again, and
none of them has been called since. -/
def Resubscribed (calls : List Call) (l : String) : Prop :=
  ∃ before between last,
    opsOf calls = before ++ .unsubscribe l :: between ++ .subscribe l :: last ∧
      ∀ op ∈ last, op.ends l = false

namespace Called

variable {calls : List Call} {i : Nat} {l : String}

/-- The function ends subscriptions of the same listener ever after. -/
theorem getElem?_given (h : Called calls i l) : (given calls)[i]? = some l := by
  obtain ⟨before, after, rfl, hgiven⟩ := h
  obtain ⟨hlt, -⟩ := List.getElem?_eq_some_iff.1 hgiven
  rw [given_append, List.getElem?_append_left hlt, hgiven]

theorem mem_opsOf (h : Called calls i l) : .unsubscribe l ∈ opsOf calls := by
  obtain ⟨before, after, rfl, hgiven⟩ := h
  rw [opsOf, opsFrom_append, List.nil_append, opsFrom, hgiven]
  simp

/-- Another call of the function ends the subscription of its listener. -/
theorem opsOf_again (h : Called calls i l) :
    opsOf (calls ++ [.cancel i]) = opsOf calls ++ [.unsubscribe l] := by
  rw [opsOf, opsFrom_append, List.nil_append, opsFrom, h.getElem?_given]
  rfl

/-- Once one of its functions has been called, a listener is registered only if it has come
back. -/
theorem mem_registered_iff (h : Called calls i l) :
    l ∈ registered (opsOf calls) ↔ Resubscribed calls l := by
  rw [Session.mem_registered_iff]
  constructor
  · rintro ⟨before, last, hops, hlast⟩
    have hmem : .unsubscribe l ∈ before ++ .subscribe l :: last := hops ▸ h.mem_opsOf
    -- The function was not called after the last subscription, so it was called before it.
    have hbefore : .unsubscribe l ∈ before := by
      rcases List.mem_append.1 hmem with hmem | hmem
      · exact hmem
      · have hends : (Op.unsubscribe l).ends l = false :=
          hlast _ ((List.mem_cons.1 hmem).resolve_left nofun)
        simp [Op.ends] at hends
    obtain ⟨first, between, rfl⟩ := List.append_of_mem hbefore
    exact ⟨first, between, last, hops, hlast⟩
  · rintro ⟨before, between, last, hops, hlast⟩
    exact ⟨_, last, hops, hlast⟩

end Called

/-! ## Calling a function once more -/

/-- The listeners of an engine, in order, after a history of calls. -/
def subscribedAfter (name : String) (behave : String → Behavior) (calls : List Call)
    (s : Session) : List Value :=
  ((after name behave (opsOf calls) s).engineOf (.text name)).listeners

theorem subscribedAfter_eq (calls : List Call) (hs : (s.engineOf (.text name)).listeners = []) :
    subscribedAfter name behave calls s = (registered (opsOf calls)).map .text :=
  listeners_after_subscriptions (fun _ hop => isSubscription_of_mem_opsFrom hop) hs

/-- **A function that was called already** takes its listener out of the engine when it is called
again, and this changes nothing exactly if the listener has not come back. -/
theorem cancel_again_iff {name : String} {behave : String → Behavior} {s : Session}
    {calls : List Call} {i : Nat} {l : String}
    (hs : (s.engineOf (.text name)).listeners = []) (hcalled : Called calls i l) :
    subscribedAfter name behave (calls ++ [.cancel i]) s =
        (subscribedAfter name behave calls s).erase (.text l) ∧
      (subscribedAfter name behave (calls ++ [.cancel i]) s = subscribedAfter name behave calls s ↔
        ¬ Resubscribed calls l) := by
  have herase : registered (opsOf (calls ++ [.cancel i])) = (registered (opsOf calls)).erase l := by
    rw [hcalled.opsOf_again, registered_unsubscribe]
  rw [subscribedAfter_eq _ hs, subscribedAfter_eq _ hs, erase_map_text, herase,
    ← hcalled.mem_registered_iff]
  refine ⟨rfl, ?_⟩
  rw [List.map_inj_right fun _ _ => Value.text.inj]
  exact List.erase_eq_self_iff

/-- A listener came back and was taken out by its other function: the first one has nothing to
do. -/
theorem cancel_again_iff_settled :
    let calls : List Call := [.subscribe "a", .cancel 0, .subscribe "b", .subscribe "a", .cancel 2]
    (({} : Session).engineOf (.text "main")).listeners = [] ∧ Called calls 0 "a" ∧
      subscribedAfter "main" (fun _ => {}) (calls ++ [.cancel 0]) {} =
        subscribedAfter "main" (fun _ => {}) calls {} := by
  have hcalled : Called [.subscribe "a", .cancel 0, .subscribe "b", .subscribe "a", .cancel 2] 0
      "a" := ⟨[.subscribe "a"], _, rfl, rfl⟩
  refine ⟨rfl, hcalled, (cancel_again_iff rfl hcalled).2.2 ?_⟩
  rw [← hcalled.mem_registered_iff]
  decide

/-- A listener that came back is taken out by the function of its first subscription, although this
function was called already. -/
theorem not_unchanged_resubscribed :
    ¬ ∀ (name : String) (behave : String → Behavior) (s : Session) (calls : List Call) (i : Nat)
      (l : String), (s.engineOf (.text name)).listeners = [] → Called calls i l →
        subscribedAfter name behave (calls ++ [.cancel i]) s =
          subscribedAfter name behave calls s := by
  intro hlaw
  have hsame := hlaw "main" (fun _ => {}) {} [.subscribe "a", .cancel 0, .subscribe "a"] 0 "a" rfl
    ⟨[.subscribe "a"], _, rfl, rfl⟩
  rw [subscribedAfter_eq _ rfl, subscribedAfter_eq _ rfl,
    List.map_inj_right fun _ _ => Value.text.inj] at hsame
  exact absurd hsame (by decide)

end Session

end SymbolSieve
