import SymbolSieve.Proofs.Engine.Changes
import SymbolSieve.Proofs.Engine.Mutations
import SymbolSieve.Proofs.Storage.Unsteady

/-!
# What can be seen of a live session

The filters of engines, their listeners and what these have received can be seen of a session; the
storage cannot, nor can the log.  As long as what is stored is not nested too deeply and filters
have flat values, storing them meets no trouble that goes further than the log.  So sessions that
look the same go on looking the same, whatever storage they have.

## What is here

* `Front`: what can be seen of a session, and `front`.
* `Calm`: sessions in which storing filters goes well or is only reported.
* `simulates_storing`: storing filters is not to be seen.
* `alike_mutation`: mutations do the same in calm sessions that look the same.
-/

set_option autoImplicit false

namespace SymbolSieve

open Document (Flat Blocked)

/-! ## Flat values of fields -/

/-- A change that gives fields flat values only. -/
def Change.IsFlat : Change → Prop
  | .update fields => Spec.Gives (fun _ => Flat) fields
  | _ => True

theorem flat_of_admits (f : Field) (v : Value) (h : Query.Admits f v) : Flat v := by
  cases f with
  | search | kind | file =>
    obtain ⟨t, h⟩ := h
    first
      | (obtain ⟨rfl, -⟩ := h; trivial)
      | (obtain ⟨-, rfl⟩ := h; trivial)
  | state => rcases h with rfl | ⟨t, -, rfl⟩ <;> trivial
  | minRefs | maxRefs => rcases h with rfl | ⟨n, rfl, -⟩ <;> trivial
  | hasCallers | hasCallees | entry => rcases h with rfl | ⟨b, rfl⟩ <;> trivial

theorem flat_default (f : Field) : Flat f.default := flat_of_admits f _ (Query.admits_default f)

theorem Change.isFlat_iff (c : Change) : c.IsFlat ↔ c.Gives Flat := by
  cases c <;> exact Iff.rfl

/-- A flat change of flat filters gives flat filters. -/
theorem Change.IsFlat.apply {c : Change} (hc : c.IsFlat) {s t : Spec}
    (hs : s.Fieldwise fun _ => Flat) (h : c.apply s = .ok t) : t.Fieldwise fun _ => Flat :=
  ((Change.isFlat_iff c).1 hc).apply flat_of_admits hs h

namespace Session

/-! ## What can be seen -/

/-- What can be seen of a session: the filters and listeners of its engines, the listeners, and what
these have received. -/
structure Front where
  engines : Assoc Value (Spec × List Value)
  behaviors : Assoc Value Behavior
  subscriptions : Assoc Value Value
  heard : List (Value × Spec)

/-- What can be seen of a session. -/
def front (s : Session) : Front where
  engines := Assoc.mapSnd (fun e => (e.spec, e.listeners)) s.engines
  behaviors := s.behaviors
  subscriptions := s.subscriptions
  heard := s.heard

/-- A session in which all filters are flat, and no listener is going to change that. -/
structure HasFlatFilters (s : Session) : Prop where
  specs : ∀ e ∈ s.engines, e.2.spec.Fieldwise fun _ => Flat
  scripts : ∀ b ∈ s.behaviors, ∀ rs ∈ b.2.script, ∀ c, Reaction.change c ∈ rs → c.IsFlat

/-- A session with flat filters in which what is stored is not nested too deeply. -/
structure Calm (s : Session) : Prop extends HasFlatFilters s where
  stored : ¬ Blocked s.desk.storage

section

variable {s t : Session}

theorem spec_engineOf (s : Session) (name : Value) :
    ((s.engineOf name).spec, (s.engineOf name).listeners) =
      (Assoc.get? name s.front.engines).getD ({}, []) := by
  rw [front, Assoc.get?_mapSnd, engineOf]
  cases Assoc.get? name s.engines <;> rfl

theorem Calm.spec (hs : Calm s) (name : Value) :
    (s.engineOf name).spec.Fieldwise fun _ => Flat := by
  rw [engineOf]
  cases hget : Assoc.get? name s.engines with
  | none => exact Spec.fieldwise_unconstrained flat_default
  | some e =>
    obtain ⟨k, hmem⟩ := Assoc.exists_mem_of_get?_eq_some hget
    exact hs.specs _ hmem

end

/-! ## Steps -/

variable {α : Type} {name : Value}

/-- An operation that begins with a look at an engine. -/
theorem alike_engine {k k' : Engine → StateM Session α} (name : Value)
    (hk : ∀ e e', e.spec = e'.spec → e.listeners = e'.listeners →
      (e.spec.Fieldwise fun _ => Flat) → Alike Calm front (k e) (k' e')) :
    Alike Calm front (engine name >>= k) (engine name >>= k') := by
  intro s t hs ht heq
  have hsame := (spec_engineOf s name).trans (heq ▸ (spec_engineOf t name).symm)
  obtain ⟨hspec, hlisteners⟩ := Prod.mk.inj hsame
  exact hk _ _ hspec hlisteners (hs.spec name) s t hs ht heq

theorem front_setEngine (name : Value) (e : Engine) (s : Session) :
    (setEngine name e s).2.front = { s.front with
      engines := Assoc.put name (e.spec, e.listeners) s.front.engines } := by
  have hput := Assoc.put_mapSnd (fun e : Engine => (e.spec, e.listeners)) name e s.engines
  simp only [front, hput]
  rfl

theorem calm_setEngine {s : Session} (hs : Calm s) (name : Value) {e : Engine}
    (he : e.spec.Fieldwise fun _ => Flat) : Calm (setEngine name e s).2 where
  stored := hs.stored
  scripts := hs.scripts
  specs e' hmem := by
    rcases Assoc.snd_eq_or_mem_of_mem_put hmem with heq | hmem
    · exact heq ▸ he
    · exact hs.specs e' hmem

theorem alike_setEngine (name : Value) {e e' : Engine} (hspec : e.spec = e'.spec)
    (hlisteners : e.listeners = e'.listeners) (he : e.spec.Fieldwise fun _ => Flat) :
    Alike Calm front (setEngine name e) (setEngine name e') := by
  intro s t hs ht heq
  refine ⟨rfl, ?_, calm_setEngine hs name he, calm_setEngine ht name (hspec ▸ he)⟩
  rw [front_setEngine, front_setEngine, heq, hspec, hlisteners]

/-- A change of what can be seen of listeners. -/
theorem alike_modify (f : Session → Session) (g : Front → Front)
    (hfront : ∀ s, Calm s → (f s).front = g s.front) (hcalm : ∀ s, Calm s → Calm (f s)) :
    Alike Calm front (modify f : StateM Session Unit) (modify f) :=
  fun s t hs ht heq => ⟨rfl, by
    show (f s).front = (f t).front
    rw [hfront s hs, hfront t ht, heq], hcalm s hs, hcalm t ht⟩

theorem simulates_log (level : LogLevel) (message : String) :
    Simulates Calm front (report level message) fun v => ((), v) :=
  .of_view_eq fun _ hs => ⟨⟨⟨hs.specs, hs.scripts⟩, hs.stored⟩, rfl⟩

theorem alike_report (level : LogLevel) (message : String) :
    Alike Calm front (report level message) (report level message) :=
  (simulates_log level message).alike

/-! ## Listeners -/

theorem alike_subscribe (name listener : Value) {b : Behavior} (hb : b.script = []) :
    Alike Calm front (subscribe name listener b) (subscribe name listener b) := by
  have hmodify : Alike Calm front (do
      modify fun s : Session => { s with
        behaviors := if (Assoc.get? listener s.behaviors).isSome then s.behaviors
          else Assoc.put listener b s.behaviors
        subscriptions := Assoc.put listener name s.subscriptions }
      return (.ok () : Except ValueFault Unit)) (do
      modify fun s : Session => { s with
        behaviors := if (Assoc.get? listener s.behaviors).isSome then s.behaviors
          else Assoc.put listener b s.behaviors
        subscriptions := Assoc.put listener name s.subscriptions }
      return .ok ()) := by
    refine (alike_modify _ (fun v => { v with
        behaviors := if (Assoc.get? listener v.behaviors).isSome then v.behaviors
          else Assoc.put listener b v.behaviors
        subscriptions := Assoc.put listener name v.subscriptions }) (fun _ _ => rfl) ?_).bind
      fun _ => .pure _
    intro s hs
    refine ⟨⟨hs.specs, ?_⟩, hs.stored⟩
    dsimp only
    split
    next => exact hs.scripts
    next => exact Scripted.put hs.scripts listener (by simp [hb])
  rw [subscribe]
  split
  · exact .pure _
  · refine alike_engine name fun e e' hspec hlisteners he => ?_
    dsimp only
    rw [hlisteners]
    split
    · exact hmodify
    · refine Alike.bind (alike_setEngine name ?_ ?_ ?_) fun _ => hmodify
      · exact hspec
      · rfl
      · exact he

theorem alike_unsubscribe (listener : Value) :
    Alike Calm front (unsubscribe listener) (unsubscribe listener) := by
  rw [unsubscribe]
  split
  · exact .pure _
  · refine Alike.get_bind fun s t hs ht heq => ?_
    have hsubscriptions : s.subscriptions = t.subscriptions := congrArg Front.subscriptions heq
    rw [hsubscriptions]
    cases Assoc.get? listener t.subscriptions with
    | none => exact .pure _
    | some name =>
      refine Alike.bind (alike_engine name fun e e' hspec hlisteners he => ?_) fun _ => .pure _
      refine alike_setEngine name ?_ ?_ ?_
      · exact hspec
      · exact congrArg (List.erase · listener) hlisteners
      · exact he

/-- A listener is asked for its next reactions, and goes on with flat ones. -/
theorem alike_nextReactions {β : Type} (listener : Value) {k : List Reaction → StateM Session β}
    (hk : ∀ rs, AllChanges Change.IsFlat rs → Alike Calm front (k rs) (k rs)) :
    Alike Calm front (nextReactions listener >>= k) (nextReactions listener >>= k) := by
  have hnext : ∀ s, Calm s → AllChanges Change.IsFlat (nextOf listener s.behaviors).1 ∧
      Scripted Change.IsFlat (nextOf listener s.behaviors).2 :=
    fun s hs => Scripted.nextOf hs.scripts listener
  have hreactions : Simulates Calm front (nextReactions listener) fun v =>
      ((nextOf listener v.behaviors).1,
        { v with behaviors := (nextOf listener v.behaviors).2 }) := by
    intro s hs
    rw [nextReactions_eq]
    exact ⟨⟨⟨hs.specs, (hnext s hs).2⟩, hs.stored⟩, rfl⟩
  refine hreactions.alike.bindOf (P := AllChanges Change.IsFlat) (fun s hs => ?_) hk
  rw [nextReactions_eq]
  exact (hnext s hs).1

theorem alike_hear (name listener : Value) :
    Alike Calm front (hear name listener) (hear name listener) := by
  refine alike_engine name fun e e' hspec _ _ => ?_
  rw [hspec]
  refine alike_modify _ (fun v => { v with heard := v.heard ++ [(listener, e'.spec)] }) ?_ ?_
  · exact fun _ _ => rfl
  · exact fun s hs => ⟨⟨hs.specs, hs.scripts⟩, hs.stored⟩

/-! ## Changes -/

/-- What an engine makes of the result of storing its filters. -/
def afterStoring : Except AccessFault Entries → StateM Session (Except ValueFault Unit)
  | .ok _ => return .ok ()
  | .error (.value fault) => return .error fault
  | .error (.storage err) => do
    report .warning ("Failed to persist filters: " ++ err.message)
    return .ok ()

theorem persist_eq (name : Value) (s : Session) :
    persist name s = match (s.engineOf name).handle with
      | none => (.ok (), s)
      | some h =>
        let r :=
          (Document.update h "filters" (.map (s.engineOf name).spec.durableEntries)).run s.desk
        afterStoring r.1 { s with desk := r.2 } := by
  show ((match (s.engineOf name).handle with
    | none => return .ok ()
    | some h => onDesk (Document.update h "filters"
        (.map (s.engineOf name).spec.durableEntries)).run >>= afterStoring :
      StateM Session (Except ValueFault Unit)) s) = _
  cases (s.engineOf name).handle <;> rfl

/-- Storing filters touches the desk only. -/
theorem persist_cases (name : Value) (s : Session) :
    ∃ d, (persist name s).2 = { s with desk := d } := by
  rw [persist_eq]
  cases (s.engineOf name).handle with
  | none => exact ⟨s.desk, rfl⟩
  | some h =>
    dsimp only
    rcases ((Document.update h "filters"
      (.map (s.engineOf name).spec.durableEntries)).run s.desk).1 with (err | fault) | _ <;>
      exact ⟨_, rfl⟩

theorem behaviors_persist (name : Value) (s : Session) :
    (persist name s).2.behaviors = s.behaviors := by
  obtain ⟨d, hd⟩ := persist_cases name s
  rw [hd]

/-- Storing flat filters goes well, or its trouble is only reported. -/
theorem persist_flat {s : Session} (hstored : ¬ Blocked s.desk.storage) {name : Value}
    (hspec : (s.engineOf name).spec.Fieldwise fun _ => Flat) :
    (persist name s).1 = .ok () ∧ ¬ Blocked (persist name s).2.desk.storage := by
  have hflat : ∀ e ∈ (s.engineOf name).spec.durableEntries, Flat e.2 := by
    intro e he
    obtain ⟨f, -, rfl⟩ := List.mem_map.1 he
    exact hspec f
  rw [persist_eq]
  cases (s.engineOf name).handle with
  | none => exact ⟨rfl, hstored⟩
  | some h =>
    obtain ⟨hfault, hafter⟩ := Document.update_flat h hstored hflat
    dsimp only
    generalize (Document.update h "filters"
      (.map (s.engineOf name).spec.durableEntries)).run s.desk = r at hfault hafter ⊢
    obtain ⟨r, d⟩ := r
    match r with
    | .ok _ => exact ⟨rfl, hafter⟩
    | .error (.value fault) => exact absurd rfl (hfault fault)
    | .error (.storage err) => exact ⟨rfl, hafter⟩

/-- **Storing filters is not to be seen**: it goes well or its trouble is only reported. -/
theorem simulates_storing (name : Value) :
    Simulates Calm front (persist name) fun v => (.ok (), v) := by
  intro s hs
  obtain ⟨hresult, hstored⟩ := persist_flat hs.stored (hs.spec name)
  obtain ⟨d, hd⟩ := persist_cases name s
  rw [hresult]
  rw [hd] at hstored ⊢
  exact ⟨⟨⟨hs.specs, hs.scripts⟩, hstored⟩, rfl⟩

theorem alike_alter (name : Value) {c : Change} (hc : c.IsFlat) :
    Alike Calm front (alter name c) (alter name c) := by
  rw [alter_eq]
  refine alike_engine name fun e e' hspec hlisteners he => ?_
  have hsettle : Alike Calm front (settle name e (c.apply e.spec))
      (settle name e' (c.apply e'.spec)) := by
    rw [← hspec]
    cases happly : c.apply e.spec with
    | error fault => exact .pure _
    | ok spec =>
      refine Alike.bind (alike_setEngine name ?_ ?_ ?_) fun _ => .pure _
      · rfl
      · exact hlisteners
      · exact hc.apply he happly
  dsimp only
  split
  · exact hsettle
  · exact (alike_report _ _).bind fun _ => hsettle

/-- Flat changes do the same if their steps do. -/
theorem inherited_alike (name : Value) :
    Inherited (fun op => Alike Calm front op op) Change.IsFlat name where
  pure := .pure
  bind h hk := h.bind hk
  report := alike_report
  subscribe _ := alike_subscribe name _ rfl
  unsubscribe _ := alike_unsubscribe _
  hear := alike_hear name
  nextReactions listener _ := alike_nextReactions listener
  alter := alike_alter name
  persist := (simulates_storing name).alike
  listeners hk := alike_engine name fun _ _ _ hlisteners _ => hlisteners ▸ hk _

theorem alike_change (name : Value) {c : Change} (hc : c.IsFlat) :
    Alike Calm front (Session.change name c) (Session.change name c) := by
  refine Alike.get_bind fun s t _ _ heq => ?_
  have hbehaviors : s.behaviors = t.behaviors := congrArg Front.behaviors heq
  have hpending : s.pending = t.pending := by rw [pending, hbehaviors, pending]
  rw [hpending]
  exact (inherited_alike name).changeWithin _ hc

/-! ## Mutations -/

/-- A mutation that gives fields flat values only. -/
def Mutation.IsFlat : Mutation → Prop
  | change _ c => c.IsFlat
  | toggle _ fields => Spec.Gives (fun _ => Flat) fields
  | bucket .. | applyPreset .. => True

theorem alike_applyBucket (name choice : Value) {found : Option Vocabulary.RefsBucket}
    (hgives : ∀ b, found = some b → Spec.Gives (fun _ => Flat) (Spec.bucketEntries b)) :
    Alike Calm front (applyBucket name choice found) (applyBucket name choice found) := by
  cases found with
  | some b => exact alike_change name (hgives b rfl)
  | none =>
    rw [applyBucket]
    cases choice.quoted with
    | ok t => exact (alike_report _ _).bind fun _ => .pure _
    | error fault => exact .pure _

/-- **Mutations do the same in calm sessions that look the same.** -/
theorem alike_mutation {m : Mutation} (hm : m.IsFlat) : Alike Calm front m.run m.run := by
  cases m with
  | change e c => exact alike_change e hm
  | toggle e fields =>
    refine alike_engine e fun found found' hspec _ _ => ?_
    rw [← hspec]
    cases htoggle : found.spec.quickToggle fields with
    | error fault => exact .pure _
    | ok es => exact alike_change e (gives_of_quickToggle flat_of_admits hm htoggle)
  | bucket e choice =>
    show Alike Calm front (selectBucket e choice) (selectBucket e choice)
    rw [selectBucket_eq]
    split
    · exact .pure _
    · refine alike_applyBucket e choice fun b hb => ?_
      cases choice with
      | text t => exact (gives_bucketEntries hb).mono flat_of_admits
      | _ => cases hb
  | applyPreset e p =>
    cases p with
    | none => exact .pure _
    | some p => exact (alike_report _ _).bind fun _ => alike_change e trivial

end Session

end SymbolSieve
