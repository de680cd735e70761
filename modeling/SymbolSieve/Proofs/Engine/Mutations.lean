import SymbolSieve.Proofs.Engine.Traversal

/-!
# What mutations do to the desk

A mutation of the filters of an engine may set off others, since a listener may change filters when
it is called.  Whatever happens, the desk is touched in two ways only: filters are stored, and lines
are written to the log.

## What is here

* `Mutation`: the ways in which a view changes the filters of an engine.
* `enlist`, `unsubscribeFrom`, `settle`, `toggled`, `applyBucket`: what an operation goes on to do
  with what it has looked up.
* `Moves`: whatever an operation does to the desk is within a relation.
* `Tolerates`: a relation on desks that allows for storing filters and for writing to the log.
* `moves_mutation`: mutations move the desk within every such relation.
-/

set_option autoImplicit false

namespace SymbolSieve.Session

/-! ## Mutations -/

/-- The ways in which a view changes the filters of an engine. -/
inductive Mutation where
  | change (engine : Value) (c : Change)
  | toggle (engine : Value) (fields : Entries)
  | bucket (engine choice : Value)
  | applyPreset (engine : Value) (p : Option Preset)

/-- Does a mutation. -/
def Mutation.run : Mutation → StateM Session (Except ValueFault Unit)
  | change e c => Session.change e c
  | toggle e fields => toggleQuick e fields
  | bucket e choice => selectBucket e choice
  | applyPreset e p => Session.applyPreset e p

/-- The engine that a mutation works on. -/
def Mutation.engine : Mutation → Value
  | change e _ | toggle e _ | bucket e _ | applyPreset e _ => e

/-! ## What follows a look-up -/

/-- Unsubscribes a listener from the engine that was found for it. -/
def unsubscribeFrom (listener : Value) : Option Value → StateM Session (Except ValueFault Unit)
  | some name => do drop name listener; return .ok ()
  | none => return .error (.missingKey (Document.messageText listener))

/-- Gives an engine the filters that a change makes. -/
def settle (name : Value) (e : Engine) : Except ValueFault Spec →
    StateM Session (Except ValueFault Unit)
  | .error fault => return .error fault
  | .ok spec => do setEngine name { e with spec }; return .ok ()

/-- Makes the changes that a quick filter comes down to. -/
def toggled (name : Value) : Except ValueFault Entries → StateM Session (Except ValueFault Unit)
  | .ok entries => Session.change name (.update entries)
  | .error fault => return .error fault

/-- The bucket that is chosen. -/
def bucketOf? : Value → Option Vocabulary.RefsBucket
  | .text t => Spec.bucket? t
  | _ => none

/-- Applies the bucket that was found for a choice. -/
def applyBucket (name choice : Value) : Option Vocabulary.RefsBucket →
    StateM Session (Except ValueFault Unit)
  | some b => Session.change name (.update (Spec.bucketEntries b))
  | none => match choice.quoted with
    | .ok t => do report .debug ("Unknown refs range " ++ t); return .ok ()
    | .error fault => return .error fault

/-- A session in which a listener is in the list of an engine. -/
def enlist (name listener : Value) (s : Session) : Session :=
  let e := s.engineOf name
  if e.listeners.contains listener then s
  else (setEngine name { e with listeners := e.listeners ++ [listener] } s).2

theorem subscribe_apply {listener : Value} (h : listener.isKey = true) (name : Value)
    (b : Behavior) (s : Session) : subscribe name listener b s =
      (.ok (), { enlist name listener s with
        behaviors := if (Assoc.get? listener s.behaviors).isSome then s.behaviors
          else Assoc.put listener b s.behaviors
        subscriptions := Assoc.put listener name s.subscriptions }) := by
  have hrun : subscribe name listener b s = (do
      unless (s.engineOf name).listeners.contains listener do
        setEngine name { s.engineOf name with
          listeners := (s.engineOf name).listeners ++ [listener] }
      modify fun s => { s with
        behaviors := if (Assoc.get? listener s.behaviors).isSome then s.behaviors
          else Assoc.put listener b s.behaviors
        subscriptions := Assoc.put listener name s.subscriptions }
      return .ok () : StateM Session (Except ValueFault Unit)) s := by
    rw [subscribe, h]
    rfl
  rw [hrun, enlist]
  cases (s.engineOf name).listeners.contains listener <;> rfl

theorem unsubscribe_apply {listener : Value} (h : listener.isKey = true) (s : Session) :
    unsubscribe listener s =
      unsubscribeFrom listener (Assoc.get? listener s.subscriptions) s := by
  rw [unsubscribe, h]
  rfl

theorem alter_eq (name : Value) (c : Change) : alter name c = (do
    let e ← engine name
    unless c.unknown.isEmpty do report .debug (Change.unknownMessage c.unknown)
    settle name e (c.apply e.spec)) := rfl

/-- What a change makes of the filters, and what it writes to the log before that. -/
theorem alter_apply (name : Value) (c : Change) (s : Session) : ∃ log,
    alter name c s = match c.apply (s.engineOf name).spec with
      | .error fault => (.error fault, { s with desk := { s.desk with log } })
      | .ok spec => (.ok (), (setEngine name { s.engineOf name with spec }
          { s with desk := { s.desk with log } }).2) := by
  have hrun : alter name c s = (do
      unless c.unknown.isEmpty do report .debug (Change.unknownMessage c.unknown)
      settle name (s.engineOf name) (c.apply (s.engineOf name).spec)) s := by
    rw [alter_eq]
    rfl
  rw [hrun]
  cases c.unknown.isEmpty with
  | true =>
    refine ⟨s.desk.log, ?_⟩
    cases c.apply (s.engineOf name).spec <;> rfl
  | false =>
    refine ⟨(report .debug (Change.unknownMessage c.unknown) s).2.desk.log, ?_⟩
    cases c.apply (s.engineOf name).spec <;> rfl

theorem heard_alter (name : Value) (c : Change) (s : Session) :
    (alter name c s).2.heard = s.heard := by
  obtain ⟨log, hrun⟩ := alter_apply name c s
  rw [hrun]
  cases c.apply (s.engineOf name).spec <;> rfl

theorem storage_alter (name : Value) (c : Change) (s : Session) :
    (alter name c s).2.desk.storage = s.desk.storage := by
  obtain ⟨log, hrun⟩ := alter_apply name c s
  rw [hrun]
  cases c.apply (s.engineOf name).spec <;> rfl

/-- A change is made if it can be made. -/
theorem result_alter (name : Value) (c : Change) (s : Session) :
    (alter name c s).1 = (c.apply (s.engineOf name).spec).map fun _ => () := by
  obtain ⟨log, hrun⟩ := alter_apply name c s
  rw [hrun]
  cases c.apply (s.engineOf name).spec <;> rfl

/-- A change that can be made fails where the filters cannot be stored. -/
theorem result_changeBy (change : Change → StateM Session (Except ValueFault Unit)) (name : Value)
    (c : Change) (s : Session) : (changeBy change name c s).1 =
      (c.apply (s.engineOf name).spec).bind fun _ => (persist name (alter name c s).2).1 := by
  have hresult := result_alter name c s
  rw [changeBy_apply]
  generalize alter name c s = altered at hresult ⊢
  obtain ⟨r, t⟩ := altered
  dsimp only at hresult ⊢
  cases happly : c.apply (s.engineOf name).spec with
  | error fault =>
    obtain rfl : r = .error fault := by rw [hresult, happly]; rfl
    rfl
  | ok spec =>
    obtain rfl : r = .ok () := by rw [hresult, happly]; rfl
    dsimp only [Except.bind]
    rcases persist name t with ⟨_ | _, u⟩ <;> rfl

theorem toggleQuick_apply (name : Value) (fields : Entries) (s : Session) :
    toggleQuick name fields s = toggled name ((s.engineOf name).spec.quickToggle fields) s := rfl

theorem selectBucket_eq (name choice : Value) : selectBucket name choice =
    if !choice.isKey then return .error .wrongKind
    else applyBucket name choice (bucketOf? choice) := rfl

/-! ## Relations on desks -/

variable {R : Desk → Desk → Prop} {α β : Type}

/-- Whatever an operation does to the desk is within a relation. -/
def Moves (R : Desk → Desk → Prop) (op : StateM Session α) : Prop := ∀ s, R s.desk (op s).2.desk

/-- A relation on desks that allows for storing filters and for writing to the log, any number of
times. -/
structure Tolerates (R : Desk → Desk → Prop) : Prop where
  refl : ∀ d, R d d
  trans : ∀ {d d' d''}, R d d' → R d' d'' → R d d''
  report : ∀ level source message d, R d (Desk.report level source message d).2
  update : ∀ h value d, R d ((Document.update h "filters" value).run d).2

namespace Tolerates

variable (hR : Tolerates R)
include hR

theorem moves_bind {op : StateM Session α} {k : α → StateM Session β} (h : Moves R op)
    (hk : ∀ a, Moves R (k a)) : Moves R (op >>= k) :=
  fun s => hR.trans (h s) (hk (op s).1 (op s).2)

/-- An operation that leaves the desk alone. -/
theorem moves_of_desk_eq {op : StateM Session α} (h : ∀ s, (op s).2.desk = s.desk) : Moves R op :=
  fun s => by rw [h s]; exact hR.refl _

theorem moves_pure (a : α) : Moves R (pure a) := hR.moves_of_desk_eq fun _ => rfl

theorem moves_engine (name : Value) : Moves R (engine name) := hR.moves_of_desk_eq fun _ => rfl

theorem moves_setEngine (name : Value) (e : Engine) : Moves R (setEngine name e) :=
  hR.moves_of_desk_eq fun _ => rfl

theorem moves_report (level : LogLevel) (message : String) :
    Moves R (Session.report level message) :=
  fun s => hR.report level "filters" message s.desk

/-! ## Listeners -/

theorem moves_subscribe (name listener : Value) (b : Behavior) :
    Moves R (subscribe name listener b) := by
  rw [subscribe]
  split
  · exact hR.moves_pure _
  · refine hR.moves_bind (hR.moves_engine name) fun e => ?_
    dsimp only
    split
    · exact hR.moves_of_desk_eq fun _ => rfl
    · exact hR.moves_of_desk_eq fun _ => rfl

theorem moves_unsubscribe (listener : Value) : Moves R (unsubscribe listener) := by
  cases hkey : listener.isKey with
  | false =>
    rw [unsubscribe, hkey]
    exact hR.moves_pure _
  | true =>
    refine hR.moves_of_desk_eq fun s => ?_
    rw [unsubscribe_apply hkey]
    cases Assoc.get? listener s.subscriptions <;> rfl

theorem moves_nextReactions (listener : Value) : Moves R (nextReactions listener) := by
  refine hR.moves_of_desk_eq fun s => ?_
  rw [nextReactions_apply]
  rcases Assoc.get? listener s.behaviors with _ | ⟨_ | ⟨rs, rest⟩, afterwards⟩ <;> rfl

/-! ## Changes -/

theorem moves_persist (name : Value) : Moves R (persist name) := by
  refine hR.moves_bind (hR.moves_engine name) fun e => ?_
  cases e.handle with
  | none => exact hR.moves_pure _
  | some h =>
    refine hR.moves_bind (fun s => hR.update h _ s.desk) fun r => ?_
    rcases r with (err | fault) | _
    · exact hR.moves_bind (hR.moves_report _ _) fun _ => hR.moves_pure _
    · exact hR.moves_pure _
    · exact hR.moves_pure _

theorem moves_settle (name : Value) (e : Engine) (applied : Except ValueFault Spec) :
    Moves R (settle name e applied) := by
  cases applied with
  | error fault => exact hR.moves_pure _
  | ok spec => exact hR.moves_bind (hR.moves_setEngine _ _) fun _ => hR.moves_pure _

theorem moves_alter (name : Value) (c : Change) : Moves R (alter name c) := by
  rw [alter_eq]
  refine hR.moves_bind (hR.moves_engine name) fun e => ?_
  dsimp only
  split
  · exact hR.moves_settle _ _ _
  · exact hR.moves_bind (hR.moves_report _ _) fun _ => hR.moves_settle _ _ _

/-- Changes move the desk like the steps that they are made of. -/
theorem inherited_moves (name : Value) : Inherited (Moves R) (fun _ => True) name where
  pure := hR.moves_pure
  bind := hR.moves_bind
  report := hR.moves_report
  subscribe _ := hR.moves_subscribe _ _ _
  unsubscribe _ := hR.moves_unsubscribe _
  hear _ := hR.moves_of_desk_eq fun _ => rfl
  nextReactions listener _ hk :=
    fun s => hR.trans (hR.moves_nextReactions listener s) (hk _ (fun _ _ => trivial) _)
  alter _ := hR.moves_alter name _
  persist := hR.moves_persist name
  listeners hk := fun s => hk (s.engineOf name).listeners s

theorem moves_change (name : Value) (c : Change) : Moves R (Session.change name c) :=
  fun s => (hR.inherited_moves name).changeWithin (s.pending + 1) trivial s

theorem moves_applyBucket (name choice : Value) (found : Option Vocabulary.RefsBucket) :
    Moves R (applyBucket name choice found) := by
  cases found with
  | some b => exact hR.moves_change name _
  | none =>
    rw [applyBucket]
    cases choice.quoted with
    | ok t => exact hR.moves_bind (hR.moves_report _ _) fun _ => hR.moves_pure _
    | error fault => exact hR.moves_pure _

/-- **Mutations move the desk** within every relation that allows for storing filters and for
writing to the log. -/
theorem moves_mutation (m : Mutation) : Moves R m.run := by
  cases m with
  | change e c => exact hR.moves_change e c
  | toggle e fields =>
    refine hR.moves_bind (hR.moves_engine e) fun found => ?_
    cases found.spec.quickToggle fields with
    | error fault => exact hR.moves_pure _
    | ok es => exact hR.moves_change e _
  | bucket e choice =>
    show Moves R (selectBucket e choice)
    rw [selectBucket_eq]
    split
    · exact hR.moves_pure _
    · exact hR.moves_applyBucket _ _ _
  | applyPreset e p =>
    cases p with
    | none => exact hR.moves_pure _
    | some p => exact hR.moves_bind (hR.moves_report _ _) fun _ => hR.moves_change e _

end Tolerates

end SymbolSieve.Session
