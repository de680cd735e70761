import SymbolSieve.Proofs.Engine.Front

/-!
# The log is not read

Operations write to the log, and none of them looks at what is written there.  Whatever the log was
before, an operation gives the same result and does the same to everything else.

## What is here

* `Logged`: states that have a log.
* `Blind`: operations that do not look at the log.
* `blind_update`: storing filters is blind.
* `inherited_blind`, `blind_change`: changes are blind, however they are nested.
-/

set_option autoImplicit false

namespace SymbolSieve

/-! ## Blindness -/

/-- States with a log that may be replaced. -/
class Logged (σ : Type) where
  relog : List LogLine → σ → σ

open Logged (relog)

instance : Logged Desk := ⟨fun log d => { d with log }⟩

instance : Logged Session := ⟨fun log s => { s with desk := relog log s.desk }⟩

variable {σ ε α β : Type} [Logged σ]

/-- An operation that does the same whatever the log is, except that it leaves another log. -/
def Blind (op : StateM σ α) : Prop :=
  ∀ s log, ∃ log', op (relog log s) = ((op s).1, relog log' (op s).2)

namespace Blind

theorem pure (a : α) : Blind (Pure.pure a : StateM σ α) := fun _ log => ⟨log, rfl⟩

theorem bind {op : StateM σ α} {k : α → StateM σ β} (h : Blind op) (hk : ∀ a, Blind (k a)) :
    Blind (op >>= k) := by
  intro s log
  obtain ⟨log', hop⟩ := h s log
  obtain ⟨log'', hrest⟩ := hk (op s).1 (op s).2 log'
  refine ⟨log'', ?_⟩
  show k (op (relog log s)).1 (op (relog log s)).2 = _
  rw [hop]
  exact hrest

/-- An operation that may fail goes on only where it did not. -/
theorem bindExcept {op : ExceptT ε (StateM σ) α} {k : α → ExceptT ε (StateM σ) β}
    (h : Blind op.run) (hk : ∀ a, Blind (k a).run) : Blind (op >>= k).run := by
  refine h.bind (k := ExceptT.bindCont k) fun r => ?_
  cases r with
  | ok a => exact hk a
  | error e => exact .pure (Except.error e)

theorem bindLift {op : StateM σ α} {k : α → ExceptT ε (StateM σ) β} (h : Blind op)
    (hk : ∀ a, Blind (k a).run) : Blind ((liftM op : ExceptT ε (StateM σ) α) >>= k).run :=
  h.bind hk

theorem adapt {ε' : Type} {op : ExceptT ε (StateM σ) α} (h : Blind op.run) (e : ε → ε') :
    Blind (op.adapt e).run := by
  intro s log
  obtain ⟨log', hop⟩ := h s log
  exact ⟨log', by
    show ((op.run (relog log s)).1.mapError e, (op.run (relog log s)).2) = _
    rw [hop]
    rfl⟩

/-- An operation that leaves the log alone and does not look at it. -/
theorem of_commutes {op : StateM σ α}
    (h : ∀ s log, op (relog log s) = ((op s).1, relog log (op s).2)) : Blind op :=
  fun s log => ⟨log, h s log⟩

end Blind

/-! ## Storing -/

theorem blind_onStorage (access : Storage → Storage.Result α) : Blind (Desk.onStorage access) :=
  .of_commutes fun _ _ => rfl

theorem blind_deskReport (level : LogLevel) (source message : String) :
    Blind (Desk.report level source message) := fun _ _ => ⟨_, rfl⟩

theorem blind_load (h : Handle) : Blind (Document.load h).run := by
  refine .bindLift (blind_onStorage _) fun r => ?_
  match r with
  | .error (.value fault) => exact .pure _
  | .error (.storage e) => exact .bindLift (blind_deskReport _ _ _) fun _ => .pure _
  | .ok saved =>
    dsimp only
    generalize Document.ofStored saved = stored
    obtain ⟨doc, _ | version⟩ := stored
    · exact .pure _
    · exact .bindLift (blind_deskReport _ _ _) fun _ => .pure _

/-- **Storing filters** is blind. -/
theorem blind_update (h : Handle) (path : String) (value : Value) :
    Blind (Document.update h path value).run := by
  refine Blind.bindExcept ((blind_load h).adapt AccessFault.value) fun saved => ?_
  exact Blind.bindExcept (blind_onStorage (Storage.setJson h Document.key _)) fun _ => .pure _

namespace Session

theorem blind_onDesk {op : StateM Desk α} (h : Blind op) : Blind (onDesk op) := by
  intro s log
  obtain ⟨log', hop⟩ := h s.desk log
  refine ⟨log', ?_⟩
  show ((op (relog log s.desk)).1, ({ s with desk := (op (relog log s.desk)).2 } : Session)) = _
  rw [hop]
  rfl

theorem blind_report (level : LogLevel) (message : String) : Blind (report level message) :=
  blind_onDesk (blind_deskReport level "filters" message)

/-- An operation that begins with a look at an engine. -/
theorem blind_engine (name : Value) {k : Engine → StateM Session α} (hk : ∀ e, Blind (k e)) :
    Blind (engine name >>= k) :=
  (Blind.of_commutes fun _ _ => rfl).bind hk

theorem blind_setEngine (name : Value) (e : Engine) : Blind (setEngine name e) :=
  .of_commutes fun _ _ => rfl

theorem blind_subscribe (name : Value) (listener : String) (b : Behavior) :
    Blind (subscribe name (.text listener) b) := by
  refine .of_commutes fun s log => ?_
  rw [subscribe_apply rfl, subscribe_apply rfl]
  have henlist : enlist name (.text listener) (relog log s) =
      relog log (enlist name (.text listener) s) := by
    rw [enlist, enlist]
    show (if (s.engineOf name).listeners.contains (.text listener) then _ else _) = _
    split <;> rfl
  rw [henlist]
  rfl

theorem blind_unsubscribe (listener : String) : Blind (unsubscribe (.text listener)) := by
  refine .of_commutes fun s log => ?_
  rw [unsubscribe_apply rfl, unsubscribe_apply rfl]
  show unsubscribeFrom _ (Assoc.get? _ s.subscriptions) _ = _
  cases Assoc.get? (.text listener) s.subscriptions <;> rfl

theorem blind_nextReactions (listener : Value) : Blind (nextReactions listener) := by
  refine .of_commutes fun s log => ?_
  rw [nextReactions_eq, nextReactions_eq]
  rfl

theorem blind_settle (name : Value) (e : Engine) (applied : Except ValueFault Spec) :
    Blind (settle name e applied) := by
  cases applied with
  | error fault => exact .pure _
  | ok spec => exact (blind_setEngine _ _).bind fun _ => .pure _

theorem blind_alter (name : Value) (c : Change) : Blind (alter name c) := by
  rw [alter_eq]
  refine blind_engine name fun e => ?_
  dsimp only
  split
  · exact blind_settle _ _ _
  · exact (blind_report _ _).bind fun _ => blind_settle _ _ _

theorem blind_persist (name : Value) : Blind (persist name) := by
  refine blind_engine name fun e => ?_
  cases e.handle with
  | none => exact .pure _
  | some h =>
    refine (blind_onDesk (blind_update h _ _)).bind fun r => ?_
    rcases r with (err | fault) | _
    · exact (blind_report _ _).bind fun _ => .pure _
    · exact .pure _
    · exact .pure _

/-- **Changes are blind** if their steps are. -/
theorem inherited_blind (name : Value) : Inherited Blind (fun _ => True) name where
  pure := .pure
  bind h hk := h.bind hk
  report := blind_report
  subscribe listener := blind_subscribe name listener {}
  unsubscribe := blind_unsubscribe
  hear _ := blind_engine name fun _ => .of_commutes fun _ _ => rfl
  nextReactions listener _ hk :=
    (blind_nextReactions listener).bind fun rs => hk rs fun _ _ => trivial
  alter _ := blind_alter name _
  persist := blind_persist name
  listeners hk := blind_engine name fun e => hk e.listeners

theorem blind_change (name : Value) (c : Change) : Blind (change name c) :=
  fun s log => (inherited_blind name).changeWithin (s.pending + 1) trivial s log

end Session

end SymbolSieve
