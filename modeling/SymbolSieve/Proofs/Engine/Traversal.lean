import SymbolSieve.Engine.Session
import SymbolSieve.Proofs.Assoc

/-!
# What nested changes inherit

A change calls listeners, listeners make changes, and so on.  A property of operations that the
single steps have, and that is kept when steps follow each other, is therefore one of whole changes,
however they are nested.

The steps are those of the announcement of a change: its filters are altered and stored, the
subscribed listeners are looked up, and each of them hears the filters and is asked for its next
reactions.

## What is here

* `hear`, `respond`, `announce`, `changeBy`: the steps that deliveries and changes are made of.
* `Scripted`: whatever listeners are going to change is allowed; it stays so when scripts are used
  up.
* `Inherited`: a property that all steps have, and that goes on from step to step.
* `Inherited.deliverAll`, `changeWithin`: deliveries and changes have it too.
-/

set_option autoImplicit false

namespace SymbolSieve.Session

/-! ## Steps -/

/-- A listener receives the filters of an engine. -/
def hear (name listener : Value) : StateM Session Unit := do
  let e ← engine name
  modify fun s => { s with heard := s.heard ++ [(listener, e.spec)] }

/-- Writes to the log that a listener failed. -/
def reportFailure (listener : Value) : StateM Session Unit :=
  report .error ("Filter listener <listener " ++ Document.messageText listener ++ "> failed")

/-- What a listener does with the filters that it hears. -/
def respond (change : Change → StateM Session (Except ValueFault Unit)) (name listener : Value)
    (reactions : List Reaction) : StateM Session Unit := do
  unless ← reactAll change name reactions do reportFailure listener

theorem deliver_eq (change : Change → StateM Session (Except ValueFault Unit))
    (name listener : Value) : deliver change name listener = (do
      hear name listener
      respond change name listener (← nextReactions listener)) := rfl

theorem deliver_apply (change : Change → StateM Session (Except ValueFault Unit))
    (name listener : Value) (s : Session) : deliver change name listener s =
      respond change name listener (nextReactions listener (hear name listener s).2).1
        (nextReactions listener (hear name listener s).2).2 := rfl

theorem reactAll_cons_apply (change : Change → StateM Session (Except ValueFault Unit))
    (name : Value) (r : Reaction) (rest : List Reaction) (s : Session) :
    reactAll change name (r :: rest) s =
      if (react change name r s).1 then reactAll change name rest (react change name r s).2
      else (false, (react change name r s).2) := by
  show (if (react change name r s).1 then reactAll change name rest else return false :
    StateM Session Bool) (react change name r s).2 = _
  split <;> rfl

theorem respond_apply (change : Change → StateM Session (Except ValueFault Unit))
    (name listener : Value) (rs : List Reaction) (s : Session) :
    respond change name listener rs s =
      if (reactAll change name rs s).1 then ((), (reactAll change name rs s).2)
      else reportFailure listener (reactAll change name rs s).2 := by
  show (unless (reactAll change name rs s).1 do reportFailure listener : StateM Session Unit)
    (reactAll change name rs s).2 = _
  split <;> rfl

/-- Announces the filters of an engine to those who are subscribed. -/
def announce (change : Change → StateM Session (Except ValueFault Unit)) (name : Value) :
    StateM Session Unit := do
  deliverAll change name (← engine name).listeners

/-- A change during whose announcement changes are made in a given way. -/
def changeBy (change : Change → StateM Session (Except ValueFault Unit)) (name : Value)
    (c : Change) : StateM Session (Except ValueFault Unit) := do
  match ← alter name c with
  | .error fault => return .error fault
  | .ok () =>
    match ← persist name with
    | .error fault => return .error fault
    | .ok () =>
      announce change name
      return .ok ()

theorem changeWithin_succ (depth : Nat) (name : Value) (c : Change) :
    changeWithin (depth + 1) name c = changeBy (changeWithin depth name) name c := rfl

theorem change_apply (name : Value) (c : Change) (s : Session) :
    change name c s = changeBy (changeWithin s.pending name) name c s := rfl

theorem changeBy_apply (change : Change → StateM Session (Except ValueFault Unit)) (name : Value)
    (c : Change) (s : Session) : changeBy change name c s = match alter name c s with
      | (.error fault, s) => (.error fault, s)
      | (.ok (), s) => match persist name s with
        | (.error fault, s) => (.error fault, s)
        | (.ok (), s) => (.ok (), (announce change name s).2) := by
  show (match (alter name c s).1 with
    | .error fault => return .error fault
    | .ok () => do
      match ← persist name with
      | .error fault => return .error fault
      | .ok () =>
        announce change name
        return .ok () : StateM Session (Except ValueFault Unit)) (alter name c s).2 = _
  rcases alter name c s with ⟨fault | _, t⟩
  · rfl
  · show (match (persist name t).1 with
      | .error fault => return .error fault
      | .ok () => do
        announce change name
        return .ok () : StateM Session (Except ValueFault Unit)) (persist name t).2 = _
    dsimp only
    rcases persist name t with ⟨fault | _, u⟩ <;> rfl

/-! ## Scripts -/

/-- Reactions with a property for every change that they make. -/
def AllChanges (allows : Change → Prop) (rs : List Reaction) : Prop :=
  ∀ c, Reaction.change c ∈ rs → allows c

/-- Listeners in whose scripts every change has a property. -/
def Scripted (allows : Change → Prop) (behaviors : Assoc Value Behavior) : Prop :=
  ∀ b ∈ behaviors, ∀ rs ∈ b.2.script, AllChanges allows rs

/-- The next reactions of a listener with the behavior that was found for it. -/
def reactionsOf (listener : Value) : Option Behavior → StateM Session (List Reaction)
  | none => return []
  | some b => match b.script with
    | [] => return b.afterwards.map .quiet
    | rs :: rest => do
      modify fun s => { s with
        behaviors := Assoc.put listener { b with script := rest } s.behaviors }
      return rs

theorem nextReactions_apply (listener : Value) (s : Session) :
    nextReactions listener s = reactionsOf listener (Assoc.get? listener s.behaviors) s := rfl

/-- What a listener does next, and what is left to do for the listeners after that. -/
def nextOf (listener : Value) (behaviors : Assoc Value Behavior) :
    List Reaction × Assoc Value Behavior :=
  match Assoc.get? listener behaviors with
  | none => ([], behaviors)
  | some ⟨[], afterwards⟩ => (afterwards.map .quiet, behaviors)
  | some ⟨rs :: rest, afterwards⟩ => (rs, Assoc.put listener ⟨rest, afterwards⟩ behaviors)

theorem nextReactions_eq (listener : Value) (s : Session) : nextReactions listener s =
    ((nextOf listener s.behaviors).1,
      { s with behaviors := (nextOf listener s.behaviors).2 }) := by
  rw [nextReactions_apply, nextOf]
  rcases Assoc.get? listener s.behaviors with _ | ⟨_ | ⟨rs, rest⟩, afterwards⟩ <;> rfl

namespace Scripted

variable {allows : Change → Prop} {behaviors : Assoc Value Behavior}
  (h : Scripted allows behaviors) (listener : Value)
include h

theorem put {b : Behavior} (hb : ∀ rs ∈ b.script, AllChanges allows rs) :
    Scripted allows (Assoc.put listener b behaviors) := by
  intro b' hmem
  rcases Assoc.snd_eq_or_mem_of_mem_put hmem with heq | hmem
  · rwa [heq]
  · exact h b' hmem

/-- What a listener does next is allowed, and so is what is left to do. -/
theorem nextOf :
    AllChanges allows (nextOf listener behaviors).1 ∧
      Scripted allows (nextOf listener behaviors).2 := by
  rw [Session.nextOf]
  split
  next => exact ⟨by simp [AllChanges], h⟩
  next => exact ⟨by simp [AllChanges], h⟩
  next rs rest afterwards hget =>
    obtain ⟨k, hmem⟩ := Assoc.exists_mem_of_get?_eq_some hget
    have hscript := h _ hmem
    exact ⟨hscript rs List.mem_cons_self, h.put listener fun rs' hrs' =>
      hscript rs' (List.mem_cons_of_mem _ hrs')⟩

end Scripted

/-! ## Inheritance -/

/-- A property of operations that the steps of changes of an engine have, as long as the changes
are allowed, and that goes on from step to step. -/
structure Inherited (P : ∀ {α : Type}, StateM Session α → Prop) (allows : Change → Prop)
    (name : Value) : Prop where
  pure : ∀ {α : Type} (a : α), P (Pure.pure a)
  bind : ∀ {α β : Type} {op : StateM Session α} {k : α → StateM Session β}, P op →
    (∀ a, P (k a)) → P (op >>= k)
  report : ∀ level message, P (report level message)
  subscribe : ∀ listener, P (subscribe name (.text listener) {})
  unsubscribe : ∀ listener, P (unsubscribe (.text listener))
  hear : ∀ listener, P (hear name listener)
  /-- What a listener is about to do is allowed. -/
  nextReactions : ∀ {β : Type} (listener : Value) {k : List Reaction → StateM Session β},
    (∀ rs, AllChanges allows rs → P (k rs)) → P (nextReactions listener >>= k)
  alter : ∀ {c : Change}, allows c → P (alter name c)
  persist : P (persist name)
  /-- Of the engine only the subscribed listeners are looked at. -/
  listeners : ∀ {β : Type} {k : List Value → StateM Session β}, (∀ ls, P (k ls)) →
    P (do k (← engine name).listeners)

namespace Inherited

variable {P : ∀ {α : Type}, StateM Session α → Prop} {allows : Change → Prop} {name : Value}
  (hP : Inherited P allows name)
include hP

section Deliveries

variable {change : Change → StateM Session (Except ValueFault Unit)}
  (hchange : ∀ c, allows c → P (change c))
include hchange

theorem react {r : Reaction} (hr : AllChanges allows [r]) : P (react change name r) := by
  match r with
  | .quiet .fail => exact hP.pure _
  | .quiet (.unsubscribe listener) => exact hP.bind (hP.unsubscribe _) fun _ => hP.pure _
  | .quiet (.subscribe listener) => exact hP.bind (hP.subscribe _) fun _ => hP.pure _
  | .change c => exact hP.bind (hchange c (hr c List.mem_cons_self)) fun _ => hP.pure _

theorem reactAll {rs : List Reaction} (hrs : AllChanges allows rs) :
    P (reactAll change name rs) := by
  induction rs with
  | nil => exact hP.pure _
  | cons r rs ih =>
    have hr : AllChanges allows [r] := fun c hc =>
      hrs c (List.mem_singleton.1 hc ▸ List.mem_cons_self)
    refine hP.bind (hP.react hchange hr) fun goesOn => ?_
    cases goesOn with
    | true => exact ih fun c hc => hrs c (List.mem_cons_of_mem _ hc)
    | false => exact hP.pure _

theorem respond (listener : Value) {rs : List Reaction} (hrs : AllChanges allows rs) :
    P (respond change name listener rs) := by
  refine hP.bind (hP.reactAll hchange hrs) fun done => ?_
  cases done with
  | true => exact hP.pure _
  | false => exact hP.report _ _

theorem deliver (listener : Value) : P (deliver change name listener) := by
  rw [deliver_eq]
  exact hP.bind (hP.hear listener) fun _ => hP.nextReactions listener fun rs hrs =>
    hP.respond hchange listener hrs

/-- **Deliveries** have what their steps have. -/
theorem deliverAll (ls : List Value) : P (deliverAll change name ls) := by
  induction ls with
  | nil => exact hP.pure _
  | cons l ls ih => exact hP.bind (hP.deliver hchange l) fun _ => ih

theorem announce : P (announce change name) := hP.listeners fun ls => hP.deliverAll hchange ls

theorem changeBy {c : Change} (hc : allows c) : P (changeBy change name c) := by
  refine hP.bind (hP.alter hc) fun altered => ?_
  cases altered with
  | error fault => exact hP.pure _
  | ok _ =>
    refine hP.bind hP.persist fun persisted => ?_
    cases persisted with
    | error fault => exact hP.pure _
    | ok _ => exact hP.bind (hP.announce hchange) fun _ => hP.pure _

end Deliveries

/-- **Changes** have what their steps have, however they are nested. -/
theorem changeWithin (depth : Nat) {c : Change} (hc : allows c) :
    P (changeWithin depth name c) := by
  induction depth generalizing c with
  | zero => exact hP.pure _
  | succ depth ih =>
    rw [changeWithin_succ]
    exact hP.changeBy (fun c hc => ih hc) hc

end Inherited

end SymbolSieve.Session
