import SymbolSieve.Proofs.Engine.Nested
import SymbolSieve.Proofs.Engine.Unseen

/-!
# Who is told of a change

Listeners come and go while the filters of an engine change.  As long as no listener does anything
but fail, every change is announced once to each of those who are registered, in the order of their
registration, and it makes no difference to the others who of them fails.

## What is here

* `Behavior.IsMute`: listeners that do nothing but fail.
* `Op`: what is done to an engine and its subscriptions; `registered`, who is registered after
  that.
* `Stage`: what the announcements of an engine depend on; `Stage.perform`, what is done as a
  function on stages.
* `simulates_perform_stage`: this is what the operations do, as long as the stored text can be read.
* `announced_iff`: exactly when every change is announced to everybody.
-/

set_option autoImplicit false

namespace SymbolSieve

open Document (Flat Blocked TooDeep)

/-- A listener that does nothing but fail now and then. -/
def Behavior.IsMute (b : Behavior) : Prop :=
  (∀ rs ∈ b.script, ∀ r ∈ rs, r = .quiet .fail) ∧ ∀ r ∈ b.afterwards, r = .fail

namespace Session

/-! ## Registrations -/

/-- What is done to an engine and its subscriptions. -/
inductive Op where
  | subscribe (listener : String)
  /-- Calls a function that ends a subscription of a listener, however old it is. -/
  | unsubscribe (listener : String)
  | mutate (m : Mutation)

namespace Op

/-- Does something to an engine.  New listeners behave in a given way. -/
def perform (name : String) (behave : String → Behavior) :
    Op → StateM Session (Except ValueFault Unit)
  | subscribe l => Session.subscribe (.text name) (.text l) (behave l)
  | unsubscribe l => do drop (.text name) (.text l); return .ok ()
  | mutate m => m.run

/-- Whether an operation ends the subscription of a listener. -/
def ends (l : String) : Op → Bool
  | unsubscribe l' => l' == l
  | subscribe _ | mutate _ => false

end Op

/-- The listeners that are registered after some operations: those who subscribed and did not end
that later, each at the place of the first such subscription. -/
def registered : List Op → List String
  | [] => []
  | .subscribe l :: ops =>
    if ops.any (·.ends l) then registered ops
    else l :: (registered ops).filter fun l' => l' != l
  | _ :: ops => registered ops

theorem any_ends_append (ops : List Op) (op : Op) (l : String) :
    (ops ++ [op]).any (·.ends l) = (ops.any (·.ends l) || op.ends l) := by
  rw [List.any_append, List.any_cons, List.any_nil, Bool.or_false]

theorem nodup_registered (ops : List Op) : (registered ops).Nodup := by
  induction ops with
  | nil => exact List.nodup_nil
  | cons op ops ih =>
    cases op with
    | subscribe l =>
      rw [registered]
      split
      · exact ih
      · exact List.nodup_cons.2 ⟨by simp, ih.filter _⟩
    | unsubscribe l => exact ih
    | mutate m => exact ih

/-- **Another subscription** comes last, unless the listener is registered already. -/
theorem registered_subscribe (ops : List Op) (l : String) :
    registered (ops ++ [.subscribe l]) =
      if l ∈ registered ops then registered ops else registered ops ++ [l] := by
  induction ops with
  | nil => simp [registered]
  | cons op ops ih =>
    cases op with
    | unsubscribe l' => exact ih
    | mutate m => exact ih
    | subscribe l' =>
      rw [List.cons_append, registered, registered, any_ends_append, ih, Op.ends, Bool.or_false]
      cases ops.any (·.ends l') with
      | true => simp
      | false =>
        by_cases hl : l ∈ registered ops
        · simp [hl]
        · by_cases hself : l = l'
          · subst hself
            simp [hl]
          · simp [hl, hself]

/-- **The end of a subscription** takes the listener out. -/
theorem registered_unsubscribe (ops : List Op) (l : String) :
    registered (ops ++ [.unsubscribe l]) = (registered ops).erase l := by
  induction ops with
  | nil => rfl
  | cons op ops ih =>
    cases op with
    | unsubscribe l' => exact ih
    | mutate m => exact ih
    | subscribe l' =>
      have hnodup := nodup_registered ops
      rw [List.cons_append, registered, registered, any_ends_append, ih, Op.ends]
      cases ops.any (·.ends l') with
      | true => simp
      | false =>
        by_cases hself : l = l'
        · simp [hself, hnodup.erase_eq_filter]
        · have hne : ¬ l' = l := fun heq => hself heq.symm
          simp [hself, hne, hnodup.erase_eq_filter, (hnodup.filter _).erase_eq_filter,
            Bool.and_comm]

/-- Nobody comes or goes when filters are changed. -/
theorem registered_mutate (ops : List Op) (m : Mutation) :
    registered (ops ++ [.mutate m]) = registered ops := by
  induction ops with
  | nil => rfl
  | cons op ops ih =>
    cases op with
    | unsubscribe l' => exact ih
    | mutate m => exact ih
    | subscribe l' =>
      rw [List.cons_append, registered, registered, any_ends_append, ih, Op.ends, Bool.or_false]

/-- A listener that comes back has lost its place. -/
example : registered [.subscribe "a", .subscribe "b", .subscribe "a", .unsubscribe "a",
    .subscribe "a"] = ["b", "a"] := by decide

/-! ## Stages -/

/-- What the announcements of an engine depend on, and what came of them. -/
structure Stage where
  spec : Spec
  listeners : List Value
  heard : List (Value × Spec)

/-- The stage of an engine. -/
def stage (name : String) (s : Session) : Stage where
  spec := (s.engineOf (.text name)).spec
  listeners := (s.engineOf (.text name)).listeners
  heard := s.heard

namespace Stage

/-- Announces the filters to listeners. -/
def announce (ls : List Value) (v : Stage) : Stage :=
  { v with heard := v.heard ++ ls.map fun l => (l, v.spec) }

/-- Announces the filters that a mutation leaves, unless it fails. -/
def mutate (m : Mutation) (v : Stage) : Except ValueFault Unit × Stage :=
  match m.outcome v.spec with
  | .error fault => (.error fault, v)
  | .ok spec => (.ok (), { v with spec }.announce v.listeners)

/-- Does something to an engine. -/
def perform : Op → Stage → Except ValueFault Unit × Stage
  | .subscribe l, v => (.ok (), { v with
      listeners := if v.listeners.contains (.text l) then v.listeners
        else v.listeners ++ [.text l] })
  | .unsubscribe l, v => (.ok (), { v with listeners := v.listeners.erase (.text l) })
  | .mutate m, v => v.mutate m

@[simp] theorem listeners_mutate (m : Mutation) (v : Stage) :
    (v.mutate m).2.listeners = v.listeners := by
  rw [mutate]
  cases m.outcome v.spec <;> rfl

theorem announce_append (ls ls' : List Value) (v : Stage) :
    (v.announce ls).announce ls' = v.announce (ls ++ ls') := by
  simp [announce]

end Stage

/-! ## Listeners that only fail -/

/-- Listeners that do nothing but fail now and then. -/
def Mute (behaviors : Assoc Value Behavior) : Prop := ∀ b ∈ behaviors, b.2.IsMute

theorem Mute.put {behaviors : Assoc Value Behavior} (h : Mute behaviors) (listener : Value)
    {b : Behavior} (hb : b.IsMute) : Mute (Assoc.put listener b behaviors) := by
  intro b' hmem
  rcases Assoc.snd_eq_or_mem_of_mem_put hmem with heq | hmem
  · rwa [heq]
  · exact h b' hmem

/-- All that a mute listener does next is to fail, and it stays mute. -/
theorem Mute.nextOf {behaviors : Assoc Value Behavior} (h : Mute behaviors) (listener : Value) :
    (∀ r ∈ (nextOf listener behaviors).1, r = .quiet .fail) ∧
      Mute (nextOf listener behaviors).2 := by
  rw [Session.nextOf]
  split
  next => exact ⟨by simp, h⟩
  next afterwards hget =>
    obtain ⟨k, hmem⟩ := Assoc.exists_mem_of_get?_eq_some hget
    refine ⟨fun r hr => ?_, h⟩
    obtain ⟨q, hq, rfl⟩ := List.mem_map.1 hr
    rw [(h _ hmem).2 q hq]
  next rs rest afterwards hget =>
    obtain ⟨k, hmem⟩ := Assoc.exists_mem_of_get?_eq_some hget
    obtain ⟨hscript, hafterwards⟩ := h _ hmem
    exact ⟨hscript rs List.mem_cons_self, h.put listener
      ⟨fun rs' hrs' => hscript rs' (List.mem_cons_of_mem _ hrs'), hafterwards⟩⟩

/-- A calm session in which listeners do nothing but fail now and then. -/
structure Peaceful (s : Session) : Prop extends Calm s where
  mute : Mute s.behaviors

variable {name : String} {s t : Session}

/-- Failures change nothing. -/
theorem reactAll_fail (change : Change → StateM Session (Except ValueFault Unit)) (name : Value)
    {rs : List Reaction} (hrs : ∀ r ∈ rs, r = .quiet .fail) (s : Session) :
    (reactAll change name rs s).2 = s := by
  cases rs with
  | nil => rfl
  | cons r rs =>
    rw [hrs r List.mem_cons_self]
    rfl

theorem simulates_deliver (change : Change → StateM Session (Except ValueFault Unit))
    (listener : Value) : Simulates Peaceful (stage name) (deliver change (.text name) listener)
      fun v => ((), v.announce [listener]) := by
  intro s hs
  obtain ⟨hfails, hmute⟩ := hs.mute.nextOf listener
  have hscripts := Scripted.nextOf hs.scripts listener
  have hrun : deliver change (.text name) listener s =
      respond change (.text name) listener (nextOf listener s.behaviors).1 { s with
        behaviors := (nextOf listener s.behaviors).2
        heard := s.heard ++ [(listener, (s.engineOf (.text name)).spec)] } := by
    show respond change (.text name) listener (nextReactions listener _).1
      (nextReactions listener _).2 = _
    rw [nextReactions_eq]
  rw [hrun, respond_apply, reactAll_fail _ _ hfails]
  split
  next => exact ⟨⟨⟨⟨hs.specs, hscripts.2⟩, hs.stored⟩, hmute⟩, rfl⟩
  next => exact ⟨⟨⟨⟨hs.specs, hscripts.2⟩, hs.stored⟩, hmute⟩, rfl⟩

/-- **An announcement** reaches every listener in turn. -/
theorem simulates_deliverAll (change : Change → StateM Session (Except ValueFault Unit))
    (ls : List Value) : Simulates Peaceful (stage name) (deliverAll change (.text name) ls)
      fun v => ((), v.announce ls) := by
  induction ls with
  | nil => exact (Simulates.pure ()).congr fun v => by simp [Stage.announce]
  | cons l ls ih =>
    exact ((simulates_deliver change l).bind fun _ => ih).congr fun v => by
      rw [Stage.announce_append]
      rfl

/-! ## Operations -/

/-- What is on stage can be seen from the front. -/
theorem stage_of_front (h : s.front = t.front) (name : String) : stage name s = stage name t := by
  have hengine := (spec_engineOf s (.text name)).trans (h ▸ (spec_engineOf t (.text name)).symm)
  obtain ⟨hspec, hlisteners⟩ := Prod.mk.inj hengine
  have hheard : s.heard = t.heard := congrArg Front.heard h
  rw [stage, stage, hspec, hlisteners, hheard]

theorem simulates_persist_stage :
    Simulates Peaceful (stage name) (persist (.text name)) fun v => (.ok (), v) := by
  intro s hs
  obtain ⟨hcalm, hrun⟩ := simulates_storing (.text name) s hs.toCalm
  obtain ⟨hresult, hfront⟩ := Prod.mk.inj hrun
  have hbehaviors : (persist (.text name) s).2.behaviors = s.behaviors :=
    (congrArg Front.behaviors hfront).symm
  exact ⟨{ hcalm with mute := hbehaviors ▸ hs.mute }, by rw [← hresult, stage_of_front hfront]⟩

/-- Another engine in place of the one with the name. -/
theorem stage_setEngine (name : String) (e : Engine) (s : Session) :
    stage name (setEngine (.text name) e s).2 = ⟨e.spec, e.listeners, s.heard⟩ := by
  rw [stage, engineOf_setEngine, if_pos rfl]
  rfl

theorem peaceful_setEngine (hs : Peaceful s) {e : Engine} (he : e.spec.Fieldwise fun _ => Flat) :
    Peaceful (setEngine (.text name) e s).2 :=
  { calm_setEngine hs.toCalm (.text name) he with mute := hs.mute }

theorem simulates_alter_stage {c : Change} (hc : c.IsFlat) :
    Simulates Peaceful (stage name) (alter (.text name) c) fun v => match c.apply v.spec with
      | .error fault => (.error fault, v)
      | .ok spec => (.ok (), { v with spec }) := by
  intro s hs
  obtain ⟨log, hrun⟩ := alter_apply (.text name) c s
  have hlogged : Peaceful { s with desk := { s.desk with log } } :=
    ⟨⟨⟨hs.specs, hs.scripts⟩, hs.stored⟩, hs.mute⟩
  rw [hrun]
  cases happly : c.apply (s.engineOf (.text name)).spec with
  | error fault =>
    have hview : c.apply (stage name s).spec = .error fault := happly
    refine ⟨hlogged, ?_⟩
    dsimp only
    rw [hview]
    rfl
  | ok spec =>
    have hview : c.apply (stage name s).spec = .ok spec := happly
    refine ⟨peaceful_setEngine hlogged (hc.apply (hs.toCalm.spec (.text name)) happly), ?_⟩
    dsimp only
    rw [hview, stage_setEngine]
    rfl

/-- An operation that begins with a look at the listeners. -/
theorem simulates_listeners {α : Type} {k : List Value → StateM Session α}
    {g : List Value → Stage → α × Stage}
    (hk : ∀ ls, Simulates Peaceful (stage name) (k ls) (g ls)) :
    Simulates Peaceful (stage name) (do k (← engine (.text name)).listeners)
      fun v => g v.listeners v :=
  fun s hs => hk (s.engineOf (.text name)).listeners s hs

/-- **A change** is announced to all listeners if it can be made. -/
theorem simulates_changeBy_stage (change : Change → StateM Session (Except ValueFault Unit))
    {c : Change} (hc : c.IsFlat) :
    Simulates Peaceful (stage name) (changeBy change (.text name) c)
      fun v => match c.apply v.spec with
        | .error fault => (.error fault, v)
        | .ok spec => (.ok (), { v with spec }.announce v.listeners) := by
  refine ((simulates_alter_stage hc).bind (g := fun r v => match r with
    | .error fault => (.error fault, v)
    | .ok _ => (.ok (), v.announce v.listeners)) fun r => ?_).congr fun v => ?_
  · rcases r with fault | _
    · exact .pure _
    · refine (simulates_persist_stage.bind (g := fun r v => match r with
        | .error fault => (.error fault, v)
        | .ok _ => (.ok (), v.announce v.listeners)) fun r => ?_).congr fun v => rfl
      rcases r with fault | _
      · exact .pure _
      · exact (simulates_listeners fun ls => simulates_deliverAll change ls).bind
          fun _ => .pure (Except.ok ())
  · cases c.apply v.spec <;> rfl

/-- A mutation is announced to all listeners unless it fails. -/
theorem simulates_mutation_stage {m : Mutation} (hengine : m.engine = .text name)
    (hm : m.Gives Flat) (hknown : m.IsKnown) :
    Simulates Peaceful (stage name) m.run (Stage.mutate m) := by
  intro s hs
  obtain ⟨log, hlog⟩ := m.remarked_eq s
  have hremarked : Peaceful (m.remarked s) := by
    rw [hlog]
    exact ⟨⟨⟨hs.specs, hs.scripts⟩, hs.stored⟩, hs.mute⟩
  have hstage : stage name (m.remarked s) = stage name s := by
    rw [hlog]
    rfl
  rw [m.run_eq, Stage.mutate, Mutation.outcome, hengine]
  cases hintent : m.intent (s.engineOf (.text name)).spec with
  | error fault =>
    have hview : m.intent (stage name s).spec = .error fault := hintent
    rw [hview]
    exact ⟨hremarked, congrArg (Prod.mk _) hstage.symm⟩
  | ok intended =>
    have hview : m.intent (stage name s).spec = .ok intended := hintent
    rw [hview]
    cases intended with
    | none => exact absurd hintent (hknown.intent_ne_none _)
    | some c =>
      have hc := (Change.isFlat_iff c).2 (hm.intent flat_of_admits hintent)
      have hchange : Peaceful _ ∧ _ = (_, stage name _) := simulates_changeBy_stage
        (changeWithin (m.remarked s).pending (.text name)) hc _ hremarked
      rwa [hstage] at hchange

theorem peaceful_enlist (hs : Peaceful s) (listener : Value) :
    Peaceful (enlist (.text name) listener s) := by
  rw [enlist]
  split
  · exact hs
  · exact peaceful_setEngine hs (hs.toCalm.spec (.text name))

theorem stage_enlist (l : String) (s : Session) :
    stage name (enlist (.text name) (.text l) s) =
      (Stage.perform (.subscribe l) (stage name s)).2 := by
  have hlisteners : (stage name s).listeners = (s.engineOf (.text name)).listeners := rfl
  rw [enlist, Stage.perform, hlisteners]
  cases (s.engineOf (.text name)).listeners.contains (.text l) with
  | true => rfl
  | false => exact stage_setEngine name _ s

theorem simulates_subscribe_stage (l : String) {b : Behavior} (hb : b.IsMute) :
    Simulates Peaceful (stage name) (subscribe (.text name) (.text l) b)
      (Stage.perform (.subscribe l)) := by
  intro s hs
  have hscripts : ∀ rs ∈ b.script, AllChanges Change.IsFlat rs := fun rs hrs c hc =>
    absurd (hb.1 rs hrs _ hc) nofun
  have hs' : Peaceful (enlist (.text name) (.text l) s) := peaceful_enlist hs _
  rw [subscribe_apply rfl]
  refine ⟨⟨⟨⟨hs'.specs, ?_⟩, hs'.stored⟩, ?_⟩, congrArg (Prod.mk _) (stage_enlist l s).symm⟩
  · dsimp only
    split
    next => exact hs.scripts
    next => exact Scripted.put hs.scripts _ hscripts
  · dsimp only
    split
    next => exact hs.mute
    next => exact hs.mute.put _ hb

/-- The operations that are considered: mutations of one engine that give fields flat values only,
and do not choose a bucket that is unknown. -/
def Op.Within (name : String) : Op → Prop
  | .mutate m => m.engine = .text name ∧ m.Gives Flat ∧ m.IsKnown
  | .subscribe _ | .unsubscribe _ => True

/-- **Operations are what they are on stage.** -/
theorem simulates_perform_stage {behave : String → Behavior} (hbehave : ∀ l, (behave l).IsMute)
    {op : Op} (hop : op.Within name) :
    Simulates Peaceful (stage name) (op.perform name behave) (Stage.perform op) := by
  cases op with
  | subscribe l => exact simulates_subscribe_stage l (hbehave l)
  | unsubscribe l =>
    intro s hs
    refine ⟨peaceful_setEngine hs (hs.toCalm.spec (.text name)), ?_⟩
    show _ = (_, stage name (setEngine (.text name) _ s).2)
    rw [stage_setEngine]
    rfl
  | mutate m => exact simulates_mutation_stage hop.1 hop.2.1 hop.2.2

/-! ## Runs -/

/-- A session after some operations. -/
def after (name : String) (behave : String → Behavior) (ops : List Op) (s : Session) : Session :=
  ops.foldl (fun s op => (op.perform name behave s).2) s

/-- A stage after some operations. -/
def Stage.after (ops : List Op) (v : Stage) : Stage :=
  ops.foldl (fun v op => (v.perform op).2) v

theorem stage_after {behave : String → Behavior} (hbehave : ∀ l, (behave l).IsMute)
    {ops : List Op} (hops : ∀ op ∈ ops, op.Within name) (hs : Peaceful s) :
    Peaceful (after name behave ops s) ∧
      stage name (after name behave ops s) = (stage name s).after ops := by
  induction ops generalizing s with
  | nil => exact ⟨hs, rfl⟩
  | cons op ops ih =>
    have hstep := simulates_perform_stage hbehave (hops op List.mem_cons_self)
    obtain ⟨hgood, hstage⟩ := ih (fun op' hop' => hops op' (List.mem_cons_of_mem _ hop'))
      (hstep.good_after hs)
    refine ⟨hgood, hstage.trans ?_⟩
    rw [hstep.view_after hs]
    rfl

theorem contains_map_text (ls : List String) (l : String) :
    (ls.map Value.text).contains (.text l) = decide (l ∈ ls) := by
  induction ls with
  | nil => rfl
  | cons l' ls ih =>
    rw [List.map_cons, List.contains_cons, ih, Value.beq_eq_equal, Value.equal_text]
    simp [Bool.beq_eq_decide_eq]

theorem erase_map_text (ls : List String) (l : String) :
    (ls.map Value.text).erase (.text l) = (ls.erase l).map .text := by
  induction ls with
  | nil => rfl
  | cons l' ls ih =>
    rw [List.map_cons, List.erase_cons, List.erase_cons, ih, Value.beq_eq_equal, Value.equal_text]
    split <;> rfl

/-- **Who is subscribed** after a run: those who are registered. -/
theorem listeners_after (ops : List Op) {v : Stage} (hv : v.listeners = []) :
    (v.after ops).listeners = (registered ops).map .text := by
  induction ops using List.reverseRecOn with
  | nil => exact hv
  | append_singleton ops op ih =>
    rw [Stage.after, List.foldl_append, List.foldl_cons, List.foldl_nil]
    rw [Stage.after] at ih
    generalize ops.foldl (fun v op => (v.perform op).2) v = w at ih ⊢
    cases op with
    | subscribe l =>
      rw [registered_subscribe]
      dsimp only [Stage.perform]
      rw [ih, contains_map_text]
      by_cases hl : l ∈ registered ops <;> simp [hl]
    | unsubscribe l =>
      rw [registered_unsubscribe, ← erase_map_text, ← ih]
      rfl
    | mutate m =>
      rw [registered_mutate, ← ih]
      exact Stage.listeners_mutate m w

/-- An engine that nobody has subscribed to yet, in a session in which no listener is known and all
filters are flat, on storage that holds something under the key of the document. -/
structure Opening (name : String) (raw : Value) (s : Session) : Prop extends HasFlatFilters s where
  stored : Storage.raw Vocabulary.stateKey s.desk.storage = raw
  unsubscribed : (s.engineOf (.text name)).listeners = []
  unknown : s.behaviors = []

theorem Opening.peaceful {raw : Value} (hs : Opening name raw s) (hraw : ¬ TooDeep raw) :
    Peaceful s where
  specs := hs.specs
  scripts := hs.scripts
  stored := by rwa [Blocked, hs.stored]
  mute b hb := by
    rw [hs.unknown] at hb
    cases hb

theorem opening_holdingRaw (raw : Value) : Opening "main" raw (holdingRaw raw) :=
  { hasFlatFilters_holdingRaw raw with
    stored := raw_holdingRaw raw, unsubscribed := rfl, unknown := rfl }

/-- **A mutation is announced** to the listeners that are registered after some operations: each of
them receives the filters that the mutation leaves, once and in order.  If the mutation fails,
nothing on stage changes. -/
def Announced (name : String) (ops : List Op) (m : Mutation) (s : Session) : Prop :=
  match m.outcome (stage name s).spec with
  | .ok spec => (m.run s).1 = .ok () ∧
      stage name (m.run s).2 = ⟨spec, (stage name s).listeners,
        s.heard ++ (registered ops).map fun l => (.text l, spec)⟩
  | .error fault => (m.run s).1 = .error fault ∧ stage name (m.run s).2 = stage name s

/-- What holds after some operations: subscribed are those who are registered, the next mutation is
announced to them, and nothing is announced when listeners come or go. -/
structure Delivers (name : String) (behave : String → Behavior) (ops : List Op) (s : Session) :
    Prop where
  subscribed : (stage name s).listeners = (registered ops).map .text
  mutation : ∀ m : Mutation, (Op.mutate m).Within name → Announced name ops m s
  subscription : ∀ l, (((Op.subscribe l).perform name behave s).2).heard = s.heard
  ending : ∀ l, (((Op.unsubscribe l).perform name behave s).2).heard = s.heard

theorem announced_of_peaceful {ops : List Op} {m : Mutation} (hs : Peaceful s)
    (hlisteners : (stage name s).listeners = (registered ops).map .text)
    (hm : (Op.mutate m).Within name) : Announced name ops m s := by
  obtain ⟨-, hrun⟩ := simulates_mutation_stage hm.1 hm.2.1 hm.2.2 s hs
  rw [Stage.mutate] at hrun
  rw [Announced]
  cases houtcome : m.outcome (stage name s).spec with
  | error fault =>
    rw [houtcome] at hrun
    obtain ⟨hresult, hstage⟩ := Prod.mk.inj hrun
    exact ⟨hresult.symm, hstage.symm⟩
  | ok spec =>
    rw [houtcome] at hrun
    obtain ⟨hresult, hstage⟩ := Prod.mk.inj hrun
    refine ⟨hresult.symm, hstage.symm.trans ?_⟩
    rw [Stage.announce, hlisteners, List.map_map]
    rfl

theorem delivers_of_peaceful {behave : String → Behavior} (hbehave : ∀ l, (behave l).IsMute)
    {ops : List Op} (hs : Peaceful s)
    (hlisteners : (stage name s).listeners = (registered ops).map .text) :
    Delivers name behave ops s where
  subscribed := hlisteners
  mutation _ hm := announced_of_peaceful hs hlisteners hm
  subscription l := by
    have hstep : Simulates Peaceful (stage name) _ (Stage.perform (.subscribe l)) :=
      simulates_perform_stage hbehave trivial
    exact congrArg Stage.heard (hstep.view_after hs)
  ending l := by
    have hstep : Simulates Peaceful (stage name) _ (Stage.perform (.unsubscribe l)) :=
      simulates_perform_stage hbehave trivial
    exact congrArg Stage.heard (hstep.view_after hs)

/-- **Every change is announced** once to everybody who is registered, in the order of registration,
and who of them fails makes no difference to anybody, exactly if the stored text is not nested too
deeply. -/
theorem announced_iff (raw : Value) :
    (∀ name s, Opening name raw s → ∀ ops, (∀ op ∈ ops, op.Within name) →
      (registered ops).Nodup ∧
      ∀ behave, (∀ l, (behave l).IsMute) →
        Delivers name behave ops (after name behave ops s) ∧
        ∀ behave', (∀ l, (behave' l).IsMute) →
          stage name (after name behave ops s) = stage name (after name behave' ops s) ∧
          ∀ op : Op, op.Within name →
            (op.perform name behave (after name behave ops s)).1 =
              (op.perform name behave' (after name behave' ops s)).1) ↔
    ¬ TooDeep raw := by
  constructor
  · intro hlaw hdeep
    have hmute : ({} : Behavior).IsMute := ⟨by simp, by simp⟩
    have hdelivers := ((hlaw "main" _ (opening_holdingRaw raw) [] (by simp)).2 (fun _ => {})
      fun _ => hmute).1
    have hannounced := hdelivers.mutation (.change (.text "main") .reset) ⟨rfl, trivial, trivial⟩
    have hok : (Session.change (.text "main") .reset (holdingRaw raw)).1 = .ok () := hannounced.1
    rw [reset_holdingRaw hdeep] at hok
    cases hok
  · intro hraw name s hs ops hops
    refine ⟨nodup_registered ops, fun behave hbehave => ?_⟩
    obtain ⟨hpeaceful, hstage⟩ := stage_after hbehave hops (hs.peaceful hraw)
    have hlisteners := listeners_after ops (v := stage name s) hs.unsubscribed
    refine ⟨delivers_of_peaceful hbehave hpeaceful (hstage ▸ hlisteners), ?_⟩
    intro behave' hbehave'
    obtain ⟨hpeaceful', hstage'⟩ := stage_after hbehave' hops (hs.peaceful hraw)
    have hsame := hstage.trans hstage'.symm
    refine ⟨hsame, fun op hop => ?_⟩
    rw [(simulates_perform_stage hbehave hop).result_eq hpeaceful,
      (simulates_perform_stage hbehave' hop).result_eq hpeaceful', hsame]

/-- The first of two listeners fails whenever it is called, and both are told of a reset. -/
theorem announced_iff_failing :
    let behave := fun l => if l = "a" then ({ afterwards := [.fail] } : Behavior) else {}
    Announced "main" [.subscribe "a", .subscribe "b"] (.change (.text "main") .reset)
      (after "main" behave [.subscribe "a", .subscribe "b"] (holdingRaw .null)) := by
  have hlaw := (announced_iff .null).2 Document.not_tooDeep_null "main" _ (opening_holdingRaw .null)
    [.subscribe "a", .subscribe "b"] (by simp [Op.Within])
  refine (hlaw.2 _ fun l => ?_).1.mutation (.change (.text "main") .reset) ⟨rfl, trivial, trivial⟩
  split <;> constructor <;> simp

/-! ## Where nobody is told -/

/-- A session with one listener, on memory that holds something under the key of the document. -/
def listening (raw : Value) : Session :=
  after "main" (fun _ => {}) [.subscribe "a"] (holdingRaw raw)

theorem lively_listening (raw : Value) : Lively 0 "main" (listening raw) where
  storage := (lively_holdingRaw raw).storage
  handle := rfl
  spec := (lively_holdingRaw raw).spec
  scripts := by
    intro b hb rs hrs
    obtain rfl := List.mem_singleton.1 hb
    cases hrs

theorem stage_listening (raw : Value) :
    (stage "main" (listening raw)).listeners = [.text "a"] := rfl

theorem outcome_reset (s : Spec) :
    (Mutation.change (.text "main") .reset).outcome s = .ok .unconstrained := rfl

theorem reset_listening {raw : Value} (hdeep : TooDeep raw) :
    ((Mutation.change (.text "main") .reset).run (listening raw)).1 = .error .tooDeep ∧
      ((Mutation.change (.text "main") .reset).run (listening raw)).2.heard = [] := by
  have hblocked : Blocked (listening raw).desk.storage := blocked_holdingRaw hdeep
  obtain ⟨t, hrun, hheard, -⟩ := changeBy_of_blocked
    (changeWithin (listening raw).pending (.text "main")) (c := .reset) trivial
    (lively_listening raw) hblocked rfl
  have hreset : (Mutation.change (.text "main") .reset).run (listening raw) =
      (.error .tooDeep, t) := hrun
  rw [hreset]
  exact ⟨rfl, hheard⟩

/-- A list of lists that is nested too deeply keeps a reset of the filters from being announced, and
it fails. -/
theorem unannounced_on_deepText :
    (stage "main" (listening (.text Document.deepText))).listeners =
        (registered [.subscribe "a"]).map .text ∧
      registered [.subscribe "a"] = ["a"] ∧
      (Mutation.change (.text "main") .reset).outcome
        (stage "main" (listening (.text Document.deepText))).spec = .ok .unconstrained ∧
      ((Mutation.change (.text "main") .reset).run (listening (.text Document.deepText))).1 =
        .error .tooDeep ∧
      ((Mutation.change (.text "main") .reset).run (listening (.text Document.deepText))).2.heard =
        [] :=
  ⟨stage_listening _, rfl, outcome_reset _, reset_listening Document.tooDeep_deepText⟩

end Session

end SymbolSieve
