import SymbolSieve.Proofs.Engine.Front
import SymbolSieve.Proofs.Engine.Intents
import SymbolSieve.Proofs.Engine.Reload

/-!
# Changes within changes

A listener may change the filters that it was just called with, and what it changes is stored and
announced before the announcement that called it goes on.  However deeply that is nested, nobody is
left with old filters: the last change of all is announced to everybody who is subscribed then, and
whoever is called after that gets the same filters.

## What is here

* `momentsWithin`, `Mutation.moments`: the engine right after each change that a mutation brings
  about, in the order in which they are made.
* `Scalar`: values that can be stored within any document.
* `Lively`: sessions in which an engine has healthy storage and only scalar values come up;
  `Ready`, those whose document can also be read.
* `Settles`: what an operation leaves behind, by the moments that it goes through.
* `listeners_up_to_date`: after a mutation everybody has the filters, and they are stored.
-/

set_option autoImplicit false

namespace SymbolSieve

open Json
open Document (Blocked TooDeep)

/-! ## Values without parts -/

/-- A value that has no parts and is no number that is too long to be written. -/
def Scalar : Value → Prop
  | .null | .bool _ | .text _ => True
  | .int n => n.natAbs < 10 ^ digitLimit
  | _ => False

theorem Scalar.faithful {v : Value} (hv : Scalar v) (depth : Nat) : Faithful depth v := by
  cases v with
  | int n =>
    have hwritable : writableInt n = true := writableInt_iff.2 hv
    exact ⟨trivial, by rw [obstacle?, if_pos hwritable]⟩
  | null | bool b | text t => exact ⟨trivial, by simp [obstacle?]⟩
  | _ => exact hv.elim

theorem scalar_of_admits (f : Field) (v : Value) (h : Query.Admits f v) : Scalar v := by
  cases f with
  | search | kind | file =>
    obtain ⟨t, h⟩ := h
    first
      | (obtain ⟨rfl, -⟩ := h; trivial)
      | (obtain ⟨-, rfl⟩ := h; trivial)
  | state => rcases h with rfl | ⟨t, -, rfl⟩ <;> trivial
  | minRefs | maxRefs =>
    rcases h with rfl | ⟨n, rfl, hn⟩
    · trivial
    · exact hn
  | hasCallers | hasCallees | entry => rcases h with rfl | ⟨b, rfl⟩ <;> trivial

namespace Session

/-! ## Moments -/

section Moments

variable (change : Change → StateM Session (Except ValueFault Unit))
  (moments : Change → Session → List Engine) (name : Value)

/-- The moments that a reaction brings about. -/
def momentsOfReaction : Reaction → Session → List Engine
  | .change c, s => moments c s
  | .quiet _, _ => []

/-- The moments that a listener's reactions bring about. -/
def momentsOfReactions : List Reaction → Session → List Engine
  | [], _ => []
  | r :: rest, s =>
    momentsOfReaction moments r s ++
      if (react change name r s).1 then momentsOfReactions rest (react change name r s).2 else []

/-- The moments that the call of a listener brings about. -/
def momentsOfDelivery (listener : Value) (s : Session) : List Engine :=
  let (reactions, s) := nextReactions listener (hear name listener s).2
  momentsOfReactions change moments name reactions s

/-- The moments that calls of listeners bring about. -/
def momentsOfDeliveries : List Value → Session → List Engine
  | [], _ => []
  | l :: rest, s =>
    momentsOfDelivery change moments name l s ++
      momentsOfDeliveries rest (deliver change name l s).2

end Moments

/-- **The moments of a change**: the engine right after the change, and right after each change that
is made while this one is announced. -/
def momentsWithin : Nat → Value → Change → Session → List Engine
  | 0, _, _, _ => []
  | depth + 1, name, c, s =>
    match alter name c s with
    | (.error _, _) => []
    | (.ok (), s) =>
      s.engineOf name ::
        match persist name s with
        | (.error _, _) => []
        | (.ok (), s) =>
          momentsOfDeliveries (changeWithin depth name) (momentsWithin depth name) name
            (s.engineOf name).listeners s

/-- The moments of a mutation. -/
def Mutation.moments (m : Mutation) (s : Session) : List Engine :=
  match m.intent (s.engineOf m.engine).spec with
  | .ok (some c) => momentsWithin ((m.remarked s).pending + 1) m.engine c (m.remarked s)
  | _ => []

/-! ## Sessions in which changes go well -/

/-- A session in which an engine has healthy storage, its filters are scalar, and no listener is
going to change that. -/
structure Lively (h : Handle) (name : String) (s : Session) : Prop where
  storage : Storage.Healthy h s.desk.storage
  handle : (s.engineOf (.text name)).handle = some h
  spec : (s.engineOf (.text name)).spec.Fieldwise fun _ => Scalar
  scripts : Scripted (Change.Gives Scalar) s.behaviors

/-- A lively session whose document can be read. -/
structure Ready (h : Handle) (name : String) (s : Session) : Prop extends Lively h name s where
  readable : ¬ Blocked s.desk.storage

/-- Nothing of an engine has changed but its listeners, and some of them heard its filters. -/
structure Quietly (name : String) (called : List Value) (s t : Session) : Prop where
  storage : t.desk.storage = s.desk.storage
  handle : (t.engineOf (.text name)).handle = (s.engineOf (.text name)).handle
  spec : (t.engineOf (.text name)).spec = (s.engineOf (.text name)).spec
  heard : t.heard = s.heard ++ called.map fun l => (l, (s.engineOf (.text name)).spec)

variable {h : Handle} {name : String} {s t u : Session}

theorem Quietly.refl (s : Session) : Quietly name [] s s := ⟨rfl, rfl, rfl, by simp⟩

theorem Quietly.trans {called called' : List Value} (hst : Quietly name called s t)
    (htu : Quietly name called' t u) : Quietly name (called ++ called') s u where
  storage := htu.storage.trans hst.storage
  handle := htu.handle.trans hst.handle
  spec := htu.spec.trans hst.spec
  heard := by rw [htu.heard, hst.heard, hst.spec, List.map_append, List.append_assoc]

theorem Quietly.ready {called : List Value} (hst : Quietly name called s t) (hs : Ready h name s)
    (hscripts : Scripted (Change.Gives Scalar) t.behaviors) : Ready h name t where
  storage := hst.storage ▸ hs.storage
  handle := hst.handle.trans hs.handle
  spec := hst.spec ▸ hs.spec
  scripts := hscripts
  readable := hst.storage ▸ hs.readable

/-! ## Steps -/

theorem quietly_report (level : LogLevel) (message : String) (s : Session) :
    Quietly name [] s (report level message s).2 := ⟨rfl, rfl, rfl, (List.append_nil _).symm⟩

theorem quietly_hear (listener : Value) (s : Session) :
    Quietly name [listener] s (hear (.text name) listener s).2 := ⟨rfl, rfl, rfl, rfl⟩

/-- Other listeners of an engine, whichever engine it is. -/
theorem quietly_setEngine (key : Value) (ls : List Value) (s : Session) :
    Quietly name [] s (setEngine key { s.engineOf key with listeners := ls } s).2 := by
  have hengine := engineOf_text_setEngine key name { s.engineOf key with listeners := ls } s
  refine ⟨rfl, ?_, ?_, (List.append_nil _).symm⟩ <;> rw [hengine] <;> split
  next hkey => rw [(Value.beq_text_iff _ _).1 hkey]
  next => rfl
  next hkey => rw [(Value.beq_text_iff _ _).1 hkey]
  next => rfl

/-- What is known of listeners does not matter. -/
theorem quietly_listeners (behaviors : Assoc Value Behavior) (subscriptions : Assoc Value Value)
    (s : Session) : Quietly name [] s { s with behaviors, subscriptions } :=
  ⟨rfl, rfl, rfl, (List.append_nil _).symm⟩

theorem quietly_subscribe (listener : String) (b : Behavior) (s : Session) :
    Quietly name [] s (subscribe (.text name) (.text listener) b s).2 := by
  have henlist : Quietly name [] s (enlist (.text name) (.text listener) s) := by
    rw [enlist]
    split
    · exact .refl s
    · exact quietly_setEngine _ _ s
  rw [subscribe_apply rfl]
  exact henlist.trans (quietly_listeners _ _ _)

theorem quietly_unsubscribe (listener : String) (s : Session) :
    Quietly name [] s (unsubscribe (.text listener) s).2 := by
  rw [unsubscribe_apply rfl]
  cases Assoc.get? (.text listener) s.subscriptions with
  | none => exact .refl s
  | some key => exact quietly_setEngine key _ s

theorem quietly_nextReactions (listener : Value) (s : Session) :
    Quietly name [] s (nextReactions listener s).2 := by
  rw [nextReactions_eq]
  exact quietly_listeners _ s.subscriptions s

/-- What listeners do without changing filters. -/
theorem quietly_react (change : Change → StateM Session (Except ValueFault Unit))
    (q : QuietReaction) (s : Session) :
    Quietly name [] s (react change (.text name) (.quiet q) s).2 := by
  cases q with
  | fail => exact .refl s
  | unsubscribe listener => exact quietly_unsubscribe listener s
  | subscribe listener => exact quietly_subscribe listener {} s

/-- A change that can be made leaves the filters that it makes. -/
theorem spec_alter_of_ok {c : Change} {spec : Spec}
    (happly : c.apply (s.engineOf (.text name)).spec = .ok spec) :
    ((alter (.text name) c s).2.engineOf (.text name)).spec = spec := by
  obtain ⟨log, hrun⟩ := alter_apply (.text name) c s
  rw [hrun, happly]
  show ((setEngine _ _ _).2.engineOf _).spec = _
  rw [engineOf_setEngine, if_pos rfl]

theorem lively_setEngine (hs : Lively h name s) {spec : Spec}
    (hspec : spec.Fieldwise fun _ => Scalar) :
    Lively h name (setEngine (.text name) { s.engineOf (.text name) with spec } s).2 where
  storage := hs.storage
  handle := by rw [engineOf_setEngine, if_pos rfl, hs.handle]
  spec := by rwa [engineOf_setEngine, if_pos rfl]
  scripts := hs.scripts

theorem faithful_of_scalar {spec : Spec} (hspec : spec.Fieldwise fun _ => Scalar) (f : Field)
    (_ : f ∈ Field.durable) (depth : Nat) : Faithful depth (spec.get f) :=
  (hspec f).faithful depth

/-- The filters of an engine are stored. -/
def Stored (spec : Spec) (s : Session) : Prop :=
  ∃ doc, Document.read (Storage.raw Vocabulary.stateKey s.desk.storage) = .ok doc ∧
    Document.Holds doc spec

theorem Stored.readable {spec : Spec} (hs : Stored spec s) : ¬ Blocked s.desk.storage := by
  obtain ⟨doc, hread, -⟩ := hs
  intro hdeep
  rw [(Document.read_eq_error_iff _ _).2 ⟨hdeep, rfl⟩] at hread
  cases hread

/-- **Storing the filters** goes well in a session that is ready. -/
theorem persist_ready (hs : Ready h name s) : ∃ d,
    persist (.text name) s = (.ok (), { s with desk := d }) ∧
      Ready h name { s with desk := d } ∧
      Stored (s.engineOf (.text name)).spec { s with desk := d } := by
  obtain ⟨doc, hread⟩ := Document.exists_read _ hs.readable
  obtain ⟨t, doc', hput, ⟨saved, hsaved⟩, hread', hholds, -⟩ := Document.updateView_filters
    (v := s.desk.view) hread (faithful_of_scalar hs.spec)
  have hupdate := Document.simulates_update (h := h) "filters"
    (.map (s.engineOf (.text name)).spec.durableEntries)
  have hresult := hupdate.result_eq hs.storage
  have hview := hupdate.view_after hs.storage
  have hgood := hupdate.good_after hs.storage
  rw [persist_eq, hs.handle]
  dsimp only
  generalize (Document.update h "filters"
    (.map (s.engineOf (.text name)).spec.durableEntries)).run s.desk = after
    at hresult hview hgood ⊢
  obtain ⟨r, d⟩ := after
  obtain rfl : r = .ok saved := hresult.trans hsaved
  have hraw : Storage.raw Vocabulary.stateKey d.storage = .text t := by
    have hcontents := congrFun (congrArg Desk.View.contents (hview.trans hput)) Vocabulary.stateKey
    exact hcontents.trans (Desk.View.contents_put_self ..)
  have hstored : Stored (s.engineOf (.text name)).spec { s with desk := d } :=
    ⟨doc', by rw [hraw, hread'], hholds⟩
  exact ⟨d, rfl, ⟨⟨hgood, hs.handle, hs.spec, hs.scripts⟩, hstored.readable⟩, hstored⟩

/-! ## Readiness -/

/-- A change leads from lively sessions to lively ones, whether it can be made or not. -/
theorem lively_alter {c : Change} (hc : c.Gives Scalar) (hs : Lively h name s) :
    Lively h name (alter (.text name) c s).2 := by
  obtain ⟨log, hrun⟩ := alter_apply (.text name) c s
  have hlogged : Lively h name { s with desk := { s.desk with log } } := { hs with }
  rw [hrun]
  cases happly : c.apply (s.engineOf (.text name)).spec with
  | error fault => exact hlogged
  | ok spec => exact lively_setEngine hlogged (hc.apply scalar_of_admits hs.spec happly)

theorem ready_alter {c : Change} (hc : c.Gives Scalar) (hs : Ready h name s) :
    Ready h name (alter (.text name) c s).2 :=
  { lively_alter hc hs.toLively with readable := by rw [storage_alter]; exact hs.readable }

/-- A change that cannot be made changes nothing. -/
theorem quietly_alter_of_error {c : Change} {fault : ValueFault}
    (hfault : (alter (.text name) c s).1 = .error fault) :
    Quietly name [] s (alter (.text name) c s).2 := by
  obtain ⟨log, hrun⟩ := alter_apply (.text name) c s
  rw [hrun] at hfault ⊢
  cases happly : c.apply (s.engineOf (.text name)).spec with
  | error fault' => exact ⟨rfl, rfl, rfl, (List.append_nil _).symm⟩
  | ok spec =>
    rw [happly] at hfault
    cases hfault

/-- Whoever is subscribed by a listener is going to change nothing. -/
theorem scripted_subscribe {allows : Change → Prop} (listener : String)
    (hs : Scripted allows s.behaviors) :
    Scripted allows (subscribe (.text name) (.text listener) {} s).2.behaviors := by
  rw [subscribe_apply rfl]
  dsimp only
  split
  next => exact hs
  next => exact hs.put _ (by simp)

theorem ready_subscribe (listener : String) (hs : Ready h name s) :
    Ready h name (subscribe (.text name) (.text listener) {} s).2 :=
  (quietly_subscribe listener {} s).ready hs (scripted_subscribe listener hs.scripts)

theorem ready_unsubscribe (listener : String) (hs : Ready h name s) :
    Ready h name (unsubscribe (.text listener) s).2 := by
  refine (quietly_unsubscribe listener s).ready hs ?_
  rw [unsubscribe_apply rfl]
  cases Assoc.get? (.text listener) s.subscriptions <;> exact hs.scripts

theorem ready_nextReactions (listener : Value) (hs : Ready h name s) :
    Ready h name (nextReactions listener s).2 := by
  refine (quietly_nextReactions listener s).ready hs ?_
  rw [nextReactions_eq]
  exact (hs.scripts.nextOf listener).2

/-- **Changes lead from ready sessions to ready ones**, since their steps do. -/
theorem inherited_ready (h : Handle) (name : String) :
    Inherited (fun op => ∀ s, Ready h name s → Ready h name (op s).2) (Change.Gives Scalar)
      (.text name) where
  pure _ _ hs := hs
  bind hop hk s hs := hk _ _ (hop s hs)
  report level message s hs := (quietly_report level message s).ready hs hs.scripts
  subscribe listener _ hs := ready_subscribe listener hs
  unsubscribe listener _ hs := ready_unsubscribe listener hs
  hear listener s hs := (quietly_hear listener s).ready hs hs.scripts
  nextReactions listener k hk s hs := by
    have hnext := hs.scripts.nextOf listener
    have hrun := hk (nextReactions listener s).1 (by rw [nextReactions_eq]; exact hnext.1)
    exact hrun _ (ready_nextReactions listener hs)
  alter hc _ hs := ready_alter hc hs
  persist s hs := by
    obtain ⟨d, hrun, hready, -⟩ := persist_ready hs
    rw [hrun]
    exact hready
  listeners hk s hs := hk _ s hs

/-! ## What is left behind -/

/-- The filters that a listener received last, by all that listeners received. -/
def LastHeard (l : Value) (spec : Spec) (heard : List (Value × Spec)) : Prop :=
  ∃ before after, heard = before ++ (l, spec) :: after ∧ ∀ e ∈ after, e.1 ≠ l

/-- An engine is as it was at a moment, its filters are stored, and whoever was subscribed at that
moment received them last. -/
structure UpToDate (name : String) (moment : Engine) (s : Session) : Prop where
  spec : (s.engineOf (.text name)).spec = moment.spec
  heard : ∀ l ∈ moment.listeners, LastHeard l moment.spec s.heard
  stored : Stored moment.spec s

/-- What an operation leaves behind, by the moments that it goes through: nothing has changed if
there is none, and otherwise everything is up to date with the last one. -/
def Settles (name : String) (called : List Value) (s : Session) (moments : List Engine)
    (t : Session) : Prop :=
  match moments.getLast? with
  | none => Quietly name called s t
  | some last => UpToDate name last t

/-- Whoever is called with some filters received them last, and so did whoever had received them
last before. -/
theorem lastHeard_append {l : Value} {spec : Spec} {heard : List (Value × Spec)} {ls : List Value}
    (hl : l ∈ ls ∨ LastHeard l spec heard) :
    LastHeard l spec (heard ++ ls.map fun l => (l, spec)) := by
  induction ls generalizing heard with
  | nil => simpa using hl
  | cons called ls ih =>
    rw [List.map_cons, List.append_cons]
    refine ih ?_
    by_cases hcalled : called = l
    · exact .inr ⟨heard, [], by rw [hcalled], by simp⟩
    · refine hl.imp (fun hmem => (List.mem_cons.1 hmem).resolve_left (Ne.symm hcalled)) ?_
      rintro ⟨before, after, rfl, hafter⟩
      refine ⟨before, after ++ [(called, spec)], by simp, fun e he => ?_⟩
      rcases List.mem_append.1 he with he | he
      · exact hafter e he
      · rwa [List.mem_singleton.1 he]

/-- Whoever is called later receives the same filters. -/
theorem UpToDate.quietly {moment : Engine} {called : List Value} (hs : UpToDate name moment s)
    (hst : Quietly name called s t) : UpToDate name moment t where
  spec := hst.spec.trans hs.spec
  heard l hl := by
    rw [hst.heard, hs.spec]
    exact lastHeard_append (.inr (hs.heard l hl))
  stored := by
    obtain ⟨doc, hread, hholds⟩ := hs.stored
    exact ⟨doc, hst.storage ▸ hread, hholds⟩

theorem Settles.trans {called called' : List Value} {ms ms' : List Engine}
    (hst : Settles name called s ms t) (htu : Settles name called' t ms' u) :
    Settles name (called ++ called') s (ms ++ ms') u := by
  rw [Settles, List.getLast?_append]
  rw [Settles] at hst htu
  cases hlast' : ms'.getLast? with
  | some last => rwa [hlast'] at htu
  | none =>
    rw [hlast'] at htu
    cases hlast : ms.getLast? with
    | some last =>
      rw [hlast] at hst
      exact hst.quietly htu
    | none =>
      rw [hlast] at hst
      exact hst.trans htu

/-! ## Deliveries -/

section Deliveries

variable {change : Change → StateM Session (Except ValueFault Unit)}
  {moments : Change → Session → List Engine}
  (hready : ∀ c : Change, c.Gives Scalar → ∀ s, Ready h name s → Ready h name (change c s).2)
  (hsettles : ∀ c : Change, c.Gives Scalar → ∀ s, Ready h name s →
    Settles name [] s (moments c s) (change c s).2)

include hsettles in
theorem settles_react {r : Reaction} (hr : AllChanges (Change.Gives Scalar) [r])
    (hs : Ready h name s) :
    Settles name [] s (momentsOfReaction moments r s) (react change (.text name) r s).2 := by
  cases r with
  | quiet q => exact quietly_react change q s
  | change c => exact hsettles c (hr c List.mem_cons_self) s hs

include hready hsettles

theorem settles_reactions {rs : List Reaction} (hrs : AllChanges (Change.Gives Scalar) rs)
    (hs : Ready h name s) :
    Settles name [] s (momentsOfReactions change moments (.text name) rs s)
      (reactAll change (.text name) rs s).2 := by
  induction rs generalizing s with
  | nil => exact Quietly.refl s
  | cons r rs ih =>
    have hr : AllChanges (Change.Gives Scalar) [r] := fun c hc =>
      hrs c (List.mem_singleton.1 hc ▸ List.mem_cons_self)
    have hfirst := settles_react hsettles hr hs
    have hs' := (inherited_ready h name).react hready hr s hs
    rw [reactAll_cons_apply, momentsOfReactions]
    split
    next => exact hfirst.trans (ih (fun c hc => hrs c (List.mem_cons_of_mem _ hc)) hs')
    next => rwa [List.append_nil]

theorem settles_respond (listener : Value) {rs : List Reaction}
    (hrs : AllChanges (Change.Gives Scalar) rs) (hs : Ready h name s) :
    Settles name [] s (momentsOfReactions change moments (.text name) rs s)
      (respond change (.text name) listener rs s).2 := by
  have hreactions := settles_reactions hready hsettles hrs hs
  rw [respond_apply]
  split
  next => exact hreactions
  next =>
    have hreport : Settles name [] _ [] (reportFailure listener _).2 :=
      quietly_report _ _ (reactAll change (.text name) rs s).2
    simpa only [List.append_nil] using hreactions.trans hreport

theorem settles_deliver (listener : Value) (hs : Ready h name s) :
    Settles name [listener] s (momentsOfDelivery change moments (.text name) listener s)
      (deliver change (.text name) listener s).2 := by
  have hhear : Ready h name (hear (.text name) listener s).2 :=
    (quietly_hear listener s).ready hs hs.scripts
  have hnext : AllChanges (Change.Gives Scalar)
      (nextReactions listener (hear (.text name) listener s).2).1 := by
    rw [nextReactions_eq]
    exact (hhear.scripts.nextOf listener).1
  have hasked : Settles name [listener] s [] _ :=
    (quietly_hear listener s).trans (quietly_nextReactions listener _)
  rw [deliver_eq]
  exact hasked.trans
    (settles_respond hready hsettles listener hnext (ready_nextReactions listener hhear))

/-- **Deliveries** leave everything up to date with the last change that is made meanwhile. -/
theorem settles_deliverAll (ls : List Value) (hs : Ready h name s) :
    Settles name ls s (momentsOfDeliveries change moments (.text name) ls s)
      (deliverAll change (.text name) ls s).2 := by
  induction ls generalizing s with
  | nil => exact Quietly.refl s
  | cons l ls ih =>
    have hfirst := settles_deliver hready hsettles l hs
    have hs' := (inherited_ready h name).deliver hready l s hs
    exact hfirst.trans (ih hs')

end Deliveries

/-! ## Changes -/

/-- Filters that are stored and then announced leave everything up to date. -/
theorem Settles.announced {moment : Engine} {ms : List Engine}
    (hst : Settles name moment.listeners s ms t) (hspec : (s.engineOf (.text name)).spec =
      moment.spec) (hstored : Stored moment.spec s) : Settles name [] u (moment :: ms) t := by
  rw [Settles] at hst ⊢
  rw [List.getLast?_cons]
  cases hlast : ms.getLast? with
  | some last => rwa [hlast] at hst
  | none =>
    rw [hlast] at hst
    refine ⟨hst.spec.trans hspec, fun l hl => ?_, ?_⟩
    · rw [hst.heard, hspec]
      exact lastHeard_append (.inl hl)
    · obtain ⟨doc, hread, hholds⟩ := hstored
      exact ⟨doc, hst.storage ▸ hread, hholds⟩

/-- **A change leaves everything up to date** with the last change that it brings about. -/
theorem settles_changeWithin (depth : Nat) {c : Change} (hc : c.Gives Scalar)
    (hs : Ready h name s) :
    Settles name [] s (momentsWithin depth (.text name) c s)
      (changeWithin depth (.text name) c s).2 := by
  induction depth generalizing c s with
  | zero => exact Quietly.refl s
  | succ depth ih =>
    have haltered := ready_alter hc hs
    have hfailed : ∀ fault, (alter (.text name) c s).1 = .error fault → Quietly name [] s _ :=
      fun _ => quietly_alter_of_error
    rw [momentsWithin, changeWithin_succ, changeBy_apply]
    generalize alter (.text name) c s = altered at haltered hfailed ⊢
    obtain ⟨fault | _, t⟩ := altered
    · exact hfailed fault rfl
    · obtain ⟨d, hpersist, hs', hstored⟩ := persist_ready haltered
      dsimp only
      rw [hpersist]
      have hdelivered := settles_deliverAll
        (fun c hc s hs => (inherited_ready h name).changeWithin depth hc s hs)
        (fun c hc s hs => ih hc hs) (t.engineOf (.text name)).listeners hs'
      exact hdelivered.announced rfl hstored

/-- Where the document cannot be read, filters cannot be stored. -/
theorem persist_of_blocked (hs : Lively h name s) (hblocked : Blocked s.desk.storage) :
    (persist (.text name) s).1 = .error .tooDeep := by
  have hread : Document.read (s.desk.view.contents Vocabulary.stateKey) = .error .tooDeep :=
    (Document.read_eq_error_iff _ _).2 ⟨hblocked, rfl⟩
  have hresult := (Document.simulates_update (h := h) "filters"
    (.map (s.engineOf (.text name)).spec.durableEntries)).result_eq hs.storage
  rw [Document.updateView_of_error _ _ hread] at hresult
  rw [persist_eq, hs.handle]
  dsimp only
  rw [hresult]
  rfl

/-- Where the document cannot be read, a change is made and goes no further. -/
theorem changeBy_of_blocked (change : Change → StateM Session (Except ValueFault Unit))
    {c : Change} {spec : Spec} (hc : c.Gives Scalar) (hs : Lively h name s)
    (hblocked : Blocked s.desk.storage)
    (happly : c.apply (s.engineOf (.text name)).spec = .ok spec) :
    ∃ t, changeBy change (.text name) c s = (.error .tooDeep, t) ∧ t.heard = s.heard ∧
      (t.engineOf (.text name)).spec = spec := by
  have hresult := result_alter (.text name) c s
  have hstored := persist_of_blocked (lively_alter hc hs)
    ((storage_alter (.text name) c s).symm ▸ hblocked)
  have hheard := heard_alter (.text name) c s
  have hspec := spec_alter_of_ok happly
  obtain ⟨d, hd⟩ := persist_cases (.text name) (alter (.text name) c s).2
  rw [happly] at hresult
  rw [changeBy_apply]
  generalize alter (.text name) c s = altered at hresult hstored hheard hspec hd ⊢
  obtain ⟨r, t⟩ := altered
  obtain rfl : r = .ok () := hresult
  dsimp only at hstored hd ⊢
  generalize persist (.text name) t = stored at hstored hd ⊢
  obtain ⟨r, u⟩ := stored
  obtain rfl : r = .error .tooDeep := hstored
  obtain rfl : u = _ := hd
  exact ⟨_, rfl, hheard, hspec⟩

/-- **A change goes well** exactly if it can be made and the document can be read. -/
theorem changeWithin_eq_ok_iff (depth : Nat) {c : Change} (hc : c.Gives Scalar)
    (hs : Lively h name s) : (changeWithin (depth + 1) (.text name) c s).1 = .ok () ↔
      ¬ Blocked s.desk.storage ∧ ∃ spec, c.apply (s.engineOf (.text name)).spec = .ok spec := by
  have haltered := lively_alter hc hs
  have hstorage := storage_alter (.text name) c s
  rw [changeWithin_succ, result_changeBy]
  cases c.apply (s.engineOf (.text name)).spec with
  | error fault => simp [Except.bind]
  | ok spec =>
    by_cases hblocked : Blocked s.desk.storage
    · simp [Except.bind, persist_of_blocked haltered (hstorage ▸ hblocked), hblocked]
    · obtain ⟨d, hpersist, -⟩ := persist_ready { haltered with readable := hstorage ▸ hblocked }
      simp [Except.bind, hpersist, hblocked]

theorem momentsWithin_ne_nil (depth : Nat) {name : Value} {c : Change} {spec : Spec}
    (happly : c.apply (s.engineOf name).spec = .ok spec) :
    momentsWithin (depth + 1) name c s ≠ [] := by
  have hresult := result_alter name c s
  rw [momentsWithin]
  generalize alter name c s = altered at hresult ⊢
  obtain ⟨r, t⟩ := altered
  obtain rfl : r = .ok () := by
    dsimp only at hresult
    rw [hresult, happly]
    rfl
  exact List.cons_ne_nil _ _

/-! ## Mutations -/

theorem lively_remarked (hs : Lively h name s) (m : Mutation) : Lively h name (m.remarked s) := by
  obtain ⟨log, hlog⟩ := m.remarked_eq s
  rw [hlog]
  exact { hs with }

/-- Two listeners that change the filters when they are called.  The first one fails after that, and
the second one ends the subscription of the first. -/
def feedback : Session :=
  { onMemory [] with
    engines := [(.text "main", { handle := some 0, listeners := [.text "a", .text "b"] })]
    behaviors := [
      (.text "a", { script := [[.change (.update [("kind", .text "enum")]), .quiet .fail]] }),
      (.text "b", {
        script := [[.quiet (.unsubscribe "a"), .change (.removeFilter (.text "kind"))]] })]
    subscriptions := [(.text "a", .text "main"), (.text "b", .text "main")] }

theorem lively_feedback : Lively 0 "main" feedback where
  storage := healthy_onMemory []
  handle := rfl
  spec := Spec.fieldwise_unconstrained fun f => scalar_of_admits f _ (Query.admits_default f)
  scripts := by
    intro b hb rs hrs c hc
    rcases (by simpa [feedback] using hb : b = _ ∨ b = _) with rfl | rfl
    · obtain rfl := List.mem_singleton.1 hrs
      obtain rfl : c = _ := by simpa using hc
      intro e he f _
      obtain rfl := List.mem_singleton.1 he
      trivial
    · obtain rfl := List.mem_singleton.1 hrs
      obtain rfl : c = _ := by simpa using hc
      trivial

end Session

end SymbolSieve
