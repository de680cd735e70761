import SymbolSieve.Engine.Debounce
import SymbolSieve.Proofs.Engine.Unread
import SymbolSieve.Proofs.Engine.Unseen
import SymbolSieve.Proofs.Selection.Traits

/-!
# What is applied of a query that is being typed

A query that is typed is applied after a pause, or when that is asked for, and at most once.  One
that is typed over or dropped before is never applied.  So what becomes of a keystroke can be told
from what happens next.

## What is here

* `Event`: what happens while a query is typed; `handed`, the queries that are applied in the end.
* `Waits`: what a debouncer waits with, and until when.
* `perform_eq`: what an event does to a debouncer that waits, and to the session.
* `session_after`: the session after some events is the one in which these queries were applied.
* `blind_perform`: nothing that happens depends on the log.
* `typing_iff`: the laws of typing, and exactly when a query that cannot be applied leaves no trace.
-/

set_option autoImplicit false

namespace SymbolSieve

open Document (Flat Blocked TooDeep)
open Logged (relog)

/-! ## Events -/

namespace Typing

/-- What happens while a query is being typed. -/
inductive Event where
  | input (query : String)
  | cancel
  | flush
  /-- Time passes. -/
  | pass (seconds : Binary64)
  /-- The loop gets to run the timers whose time has come. -/
  | settle

/-- What an event does, while the loop is running. -/
def perform : Event → StateM Typing (Except DebounceFault Unit)
  | .input q => input true (.text q)
  | .cancel => do cancel; return .ok ()
  | .flush => flush
  | .pass seconds => do advance seconds; return .ok ()
  | .settle => do settle; return .ok ()

/-- The typing after some events. -/
def after (es : List Event) (t : Typing) : Typing := es.foldl (fun t e => (perform e t).2) t

/-- Applies a query to an engine, as a debouncer does. -/
def handOver (engine : Value) (q : String) : StateM Session (Except ValueFault Unit) := do
  Session.onDesk (Desk.report .debug "debounce" ("Applying search query " ++ Text.quoted q))
  Session.change engine (.query (.text q))

/-- The queries that are typed. -/
def inputs (es : List Event) : List String := es.filterMap fun
  | .input q => some q
  | _ => none

/-! ## What happens next -/

/-- Whether the time of a timer has come at a time. -/
def reached (now due : Binary64) : Bool := ({ now } : TimerLoop).isDue ⟨0, due⟩

/-- Whether a query that waits until a time is applied by what happens next: by a flush, or by the
loop once the time has come, before it is typed over or dropped. -/
def isApplied (due now : Binary64) : List Event → Bool
  | [] => false
  | .input _ :: _ | .cancel :: _ => false
  | .flush :: _ => true
  | .pass seconds :: es => isApplied due (now.add seconds) es
  | .settle :: es => reached now due || isApplied due now es

/-- The queries that are applied: those that are typed and not typed over or dropped before. -/
def handed (delay now : Binary64) : List Event → List String
  | [] => []
  | .input q :: es =>
    if isApplied (now.add delay) now es then q :: handed delay now es else handed delay now es
  | .pass seconds :: es => handed delay (now.add seconds) es
  | _ :: es => handed delay now es

/-- **Each query is applied at most once**, and in the order in which they are typed. -/
theorem handed_sublist (delay now : Binary64) (es : List Event) :
    (handed delay now es).Sublist (inputs es) := by
  induction es generalizing now with
  | nil => exact .slnil
  | cons e es ih =>
    cases e with
    | input q =>
      rw [handed, inputs, List.filterMap_cons]
      dsimp only
      split
      · exact (ih now).cons_cons q
      · exact (ih now).cons q
    | pass seconds => exact ih _
    | cancel => exact ih _
    | flush => exact ih _
    | settle => exact ih _

/-! ## Debouncers that wait -/

/-- What a debouncer waits with and until when, if it waits at all.  There is no other timer. -/
def Waits (d : Debouncer) : Option (String × Binary64) → Prop
  | none => d.handle = none ∧ d.loop.timers = [] ∧ d.waiting = .null
  | some (q, due) =>
    ∃ id, d.handle = some id ∧ d.loop.timers = [⟨id, due⟩] ∧ d.waiting = .text q

variable {d : Debouncer} {w : Option (String × Binary64)}

/-- There is at most one timer, it is the one that is waited for, and a query waits exactly as long
as it exists. -/
structure OneTimer (d : Debouncer) : Prop where
  single : d.loop.timers.length ≤ 1
  own : ∀ timer ∈ d.loop.timers, d.handle = some timer.id
  pending_iff : d.pending = true ↔ d.loop.timers ≠ []

theorem Waits.oneTimer (h : Waits d w) : OneTimer d := by
  cases w with
  | none =>
    obtain ⟨hhandle, htimers, -⟩ := h
    constructor <;> simp [Debouncer.pending, hhandle, htimers]
  | some w =>
    obtain ⟨id, hhandle, htimers, -⟩ := h
    constructor <;> simp [Debouncer.pending, hhandle, htimers]

theorem Waits.idle (h : Waits d w) : Waits d.idle none := by
  cases w with
  | none =>
    obtain ⟨hhandle, htimers, -⟩ := h
    simp [Waits, Debouncer.idle, hhandle, htimers]
  | some w =>
    obtain ⟨id, hhandle, htimers, -⟩ := h
    simp [Waits, Debouncer.idle, TimerLoop.cancel, hhandle, htimers]

theorem Waits.idle_eq (h : Waits d none) : d.idle = d := by
  obtain ⟨delay, loop, handle, waiting⟩ := d
  obtain ⟨rfl, -, rfl⟩ := h
  rfl

theorem delay_idle (d : Debouncer) : d.idle.delay = d.delay := rfl

theorem now_idle (d : Debouncer) : d.idle.loop.now = d.loop.now := by
  rw [Debouncer.idle]
  cases d.handle <;> rfl

theorem Waits.restart (h : Waits d w) (q : String) :
    Waits (d.restart (.text q)) (some (q, d.loop.now.add d.delay)) := by
  refine ⟨d.idle.loop.next, rfl, ?_, rfl⟩
  have htimers : (d.restart (.text q)).loop.timers =
      d.idle.loop.timers ++ [⟨d.idle.loop.next, d.idle.loop.now.add d.idle.delay⟩] := rfl
  rw [htimers, h.idle.2.1, now_idle, delay_idle]
  rfl

/-- The one timer is run if its time has come. -/
theorem due_eq {timer : Timer} (h : d.loop.timers = [timer]) :
    d.loop.due = if reached d.loop.now timer.due then [timer] else [] := by
  have hdue : d.loop.isDue timer = reached d.loop.now timer.due := rfl
  rw [TimerLoop.due, h, List.filter_singleton, hdue]
  cases reached d.loop.now timer.due <;> simp

theorem due_eq_nil (h : d.loop.timers = []) : d.loop.due = [] := by
  rw [TimerLoop.due, h]
  simp

/-! ## Steps -/

/-- What an event makes of a debouncer. -/
def step (d : Debouncer) : Event → Debouncer
  | .input q => d.restart (.text q)
  | .cancel | .flush => d.idle
  | .pass seconds => { d with loop := d.loop.advance seconds }
  | .settle => if d.loop.due.isEmpty then d else d.idle

/-- What a debouncer waits with after an event. -/
def next (delay now : Binary64) (w : Option (String × Binary64)) :
    Event → Option (String × Binary64)
  | .input q => some (q, now.add delay)
  | .cancel | .flush => none
  | .pass _ => w
  | .settle => w.filter fun x => !reached now x.2

/-- The time after an event. -/
def later (now : Binary64) : Event → Binary64
  | .pass seconds => now.add seconds
  | _ => now

/-- The query that an event leads to be applied. -/
def taken (now : Binary64) (w : Option (String × Binary64)) : Event → Option String
  | .flush => w.map Prod.fst
  | .settle => (w.filter fun x => reached now x.2).map Prod.fst
  | _ => none

/-- What comes of an event, by what came of applying a query.  What fails in a timer is nobody's
concern. -/
def answer : Event → Except ValueFault Unit → Except DebounceFault Unit
  | .settle, _ => .ok ()
  | _, r => r.mapError .value

theorem Waits.step (h : Waits d w) (e : Event) :
    Waits (step d e) (next d.delay d.loop.now w e) := by
  cases e with
  | input q => exact h.restart q
  | cancel => exact h.idle
  | flush => exact h.idle
  | pass seconds => cases w <;> exact h
  | settle =>
    cases w with
    | none =>
      rw [Typing.step, h.idle_eq, ite_self]
      exact h
    | some w =>
      have hidle := h.idle
      obtain ⟨id, hhandle, htimers, hwaiting⟩ := h
      rw [Typing.step, due_eq htimers, next, Option.filter_some]
      cases reached d.loop.now w.2 with
      | true => exact hidle
      | false => exact ⟨id, hhandle, htimers, hwaiting⟩

theorem delay_step (d : Debouncer) (e : Event) : (Typing.step d e).delay = d.delay := by
  cases e with
  | settle =>
    rw [Typing.step]
    split <;> rfl
  | _ => rfl

theorem now_step (d : Debouncer) (e : Event) :
    (Typing.step d e).loop.now = later d.loop.now e := by
  cases e with
  | settle =>
    rw [Typing.step]
    split
    · rfl
    · exact now_idle d
  | input q => exact now_idle d
  | cancel => exact now_idle d
  | flush => exact now_idle d
  | pass seconds => rfl

/-- Applies a query to an engine, if there is a text of it for the log. -/
def fireQuery (engine query : Value) :
    Except ValueFault String → StateM Typing (Except DebounceFault Unit)
  | .error fault => return .error (.value fault)
  | .ok shown => do
    onSession (Session.onDesk
      (Desk.report .debug "debounce" ("Applying search query " ++ shown)))
    return (← onSession (Session.change engine (.query query))).mapError .value

/-- Applying the query that waits. -/
theorem fire_eq {t : Typing} {q : String} (hwaiting : t.debouncer.waiting = .text q) :
    fire t = ((handOver t.engine q t.session).1.mapError .value,
      { t with debouncer := t.debouncer.idle, session := (handOver t.engine q t.session).2 }) := by
  have hrun : fire t = fireQuery t.engine (t.debouncer.waiting.orElse (.text ""))
      (t.debouncer.waiting.orElse (.text "")).quoted
      { t with debouncer := t.debouncer.idle } := rfl
  rw [hrun, hwaiting, Record.orElse_text]
  rfl

/-- The loop applies the query that waits when it runs the timer. -/
theorem runTimers_eq {t : Typing} {q : String} {timer : Timer}
    (hhandle : t.debouncer.handle = some timer.id) (htimers : t.debouncer.loop.timers = [timer])
    (hwaiting : t.debouncer.waiting = .text q) :
    (runTimers [timer] t).2 = { t with
      debouncer := t.debouncer.idle, session := (handOver t.engine q t.session).2 } := by
  have hcontains : t.debouncer.loop.timers.contains timer = true := by simp [htimers]
  have hrun : (runTimers [timer] t).2 = (if t.debouncer.loop.timers.contains timer then
      (fire { t with debouncer := { t.debouncer with
        loop := t.debouncer.loop.cancel timer.id } }).2 else t) := by
    show ((do
      if t.debouncer.loop.timers.contains timer then
        set { t with debouncer := { t.debouncer with
          loop := t.debouncer.loop.cancel timer.id } }
        let _ ← fire
      runTimers [] : StateM Typing Unit) t).2 = _
    rw [hcontains]
    rfl
  have hidle : ({ t.debouncer with loop := t.debouncer.loop.cancel timer.id } : Debouncer).idle =
      t.debouncer.idle := by
    simp [Debouncer.idle, TimerLoop.cancel, hhandle, htimers]
  have hfire := fun (u : Typing) (hu : u.debouncer.waiting = .text q) =>
    congrArg Prod.snd (fire_eq hu)
  rw [hrun, hcontains, if_pos rfl]
  refine (hfire _ ?_).trans ?_
  · exact hwaiting
  · exact congrArg (fun d => ({ t with
      debouncer := d, session := (handOver t.engine q t.session).2 } : Typing)) hidle

/-- **What an event does** to a debouncer that waits, and to the session. -/
theorem perform_eq {t : Typing} (h : Waits t.debouncer w) (e : Event) :
    perform e t = match taken t.debouncer.loop.now w e with
      | none => (.ok (), { t with debouncer := step t.debouncer e })
      | some q => (answer e (handOver t.engine q t.session).1,
          { t with
            debouncer := step t.debouncer e
            session := (handOver t.engine q t.session).2 }) := by
  cases e with
  | input q => rfl
  | cancel => rfl
  | pass seconds => rfl
  | flush =>
    have hrun : perform .flush t = (if t.debouncer.pending then fire else return .ok () :
      StateM Typing (Except DebounceFault Unit)) t := rfl
    rw [hrun, taken]
    cases w with
    | none =>
      have hpending : t.debouncer.pending = false := by rw [Debouncer.pending, h.1]; rfl
      rw [hpending, step, h.idle_eq]
      rfl
    | some w =>
      obtain ⟨id, hhandle, -, hwaiting⟩ := h
      have hpending : t.debouncer.pending = true := by rw [Debouncer.pending, hhandle]; rfl
      rw [hpending, if_pos rfl, fire_eq hwaiting]
      rfl
  | settle =>
    have hrun : perform .settle t = (.ok (), (runTimers t.debouncer.loop.due t).2) := rfl
    rw [hrun, taken, step]
    cases w with
    | none =>
      rw [due_eq_nil h.2.1]
      rfl
    | some w =>
      obtain ⟨id, hhandle, htimers, hwaiting⟩ := h
      rw [due_eq htimers, Option.filter_some]
      cases reached t.debouncer.loop.now w.2 with
      | true => exact congrArg (Prod.mk _) (runTimers_eq hhandle htimers hwaiting)
      | false => rfl

/-! ## Runs -/

/-- Applies queries to an engine, one after the other. -/
def handAll (engine : Value) (qs : List String) (s : Session) : Session :=
  qs.foldl (fun s q => (handOver engine q s).2) s

variable {t : Typing}

theorem snd_perform (h : Waits t.debouncer w) (e : Event) : (perform e t).2 = { t with
    debouncer := step t.debouncer e
    session := handAll t.engine (taken t.debouncer.loop.now w e).toList t.session } := by
  rw [perform_eq h]
  cases taken t.debouncer.loop.now w e <;> rfl

theorem after_cons (e : Event) (es : List Event) (t : Typing) :
    after (e :: es) t = after es (perform e t).2 := rfl

/-- A debouncer goes on waiting, or being idle. -/
theorem waits_after (h : Waits t.debouncer w) (es : List Event) :
    (∃ w', Waits (after es t).debouncer w') ∧ (after es t).engine = t.engine := by
  induction es generalizing t w with
  | nil => exact ⟨⟨w, h⟩, rfl⟩
  | cons e es ih =>
    have hstep := h.step e
    have hperform := snd_perform h e
    rw [after_cons, hperform]
    exact ih (t := { t with debouncer := step t.debouncer e, session := _ }) hstep

/-- The queries that are applied of what waits and what is typed. -/
def trace (delay now : Binary64) (w : Option (String × Binary64)) (es : List Event) :
    List String :=
  ((w.filter fun x => isApplied x.2 now es).map Prod.fst).toList ++ handed delay now es

/-- An event takes the first of the queries that are applied, or none of them. -/
theorem trace_cons (delay now : Binary64) (w : Option (String × Binary64)) (e : Event)
    (es : List Event) : trace delay now w (e :: es) =
      (taken now w e).toList ++ trace delay (later now e) (next delay now w e) es := by
  cases e with
  | input q =>
    have hold : trace delay now w (.input q :: es) = handed delay now (.input q :: es) := by
      cases w <;> rfl
    rw [hold, handed]
    show _ = trace delay now (some (q, now.add delay)) es
    rw [trace, Option.filter_some]
    split <;> rfl
  | cancel => cases w <;> rfl
  | flush => cases w <;> rfl
  | pass seconds => rfl
  | settle =>
    cases w with
    | none => rfl
    | some w =>
      have hhanded : handed delay now (.settle :: es) = handed delay now es := rfl
      rw [trace, taken, next, hhanded, Option.filter_some, Option.filter_some, Option.filter_some,
        isApplied]
      cases reached now w.2 with
      | true => rfl
      | false =>
        show _ = trace delay now (some w) es
        rw [trace, Option.filter_some]
        rfl

theorem session_trace (h : Waits t.debouncer w) (es : List Event) : (after es t).session =
    handAll t.engine (trace t.debouncer.delay t.debouncer.loop.now w es) t.session := by
  induction es generalizing t w with
  | nil => cases w <;> rfl
  | cons e es ih =>
    have hstep := h.step e
    have hperform := snd_perform h e
    have hrest := ih (t := (perform e t).2) (w := next t.debouncer.delay t.debouncer.loop.now w e)
      (hperform ▸ hstep)
    rw [trace_cons, handAll, List.foldl_append, ← handAll, ← handAll]
    rw [hperform] at hrest
    rw [after_cons, hperform]
    simpa only [delay_step, now_step] using hrest

/-- **The session after some events** is the one in which the queries that are handed over were
applied, one after the other. -/
theorem session_after (h : Waits t.debouncer none) (es : List Event) : (after es t).session =
    handAll t.engine (handed t.debouncer.delay t.debouncer.loop.now es) t.session :=
  session_trace h es

/-! ## Queries that cannot be applied -/

instance : Logged Typing := ⟨fun log t => { t with session := relog log t.session }⟩

theorem blind_handOver (engine : Value) (q : String) : Blind (handOver engine q) :=
  (Session.blind_onDesk (blind_deskReport _ _ _)).bind fun _ => Session.blind_change engine _

/-- **Nothing that happens depends on the log.** -/
theorem blind_perform (h : Waits t.debouncer w) (e : Event) (log : List LogLine) :
    ∃ log', perform e (relog log t) = ((perform e t).1, relog log' (perform e t).2) := by
  have hrelogged := perform_eq (t := relog log t) h e
  have hperform := perform_eq h e
  have hnow : (relog log t).debouncer.loop.now = t.debouncer.loop.now := rfl
  rw [hnow] at hrelogged
  rw [hrelogged, hperform]
  cases taken t.debouncer.loop.now w e with
  | none => exact ⟨log, rfl⟩
  | some q =>
    obtain ⟨log', hrun⟩ := blind_handOver t.engine q t.session log
    have hsame : handOver (relog log t).engine q (relog log t).session =
        ((handOver t.engine q t.session).1, relog log' (handOver t.engine q t.session).2) := hrun
    refine ⟨log', ?_⟩
    dsimp only
    rw [hsame]
    rfl

theorem blind_after (h : Waits t.debouncer w) (es : List Event) (log : List LogLine) :
    ∃ log', after es (relog log t) = relog log' (after es t) := by
  induction es generalizing t w log with
  | nil => exact ⟨log, rfl⟩
  | cons e es ih =>
    obtain ⟨log', hperform⟩ := blind_perform h e log
    have hwaits : Waits (perform e t).2.debouncer
        (next t.debouncer.delay t.debouncer.loop.now w e) := by
      rw [snd_perform h]
      exact h.step e
    obtain ⟨log'', hrest⟩ := ih hwaits log'
    exact ⟨log'', by rw [after_cons, after_cons, hperform, hrest]⟩

/-- No matter what is applied, the document does not become one that cannot be loaded. -/
theorem not_blocked_handOver {s : Session} (hs : ¬ Blocked s.desk.storage) (engine : Value)
    (q : String) : ¬ Blocked (handOver engine q s).2.desk.storage := by
  have hkeeps : Session.Tolerates fun d d' : Desk => ¬ Blocked d.storage → ¬ Blocked d'.storage := {
    refl := fun _ hd => hd
    trans := fun h h' hd => h' (h hd)
    report := fun _ _ _ _ hd => hd
    update := fun h v _ hd => Document.not_blocked_update h hd _ v }
  exact hkeeps.moves_change engine (.query (.text q)) _ hs

theorem not_blocked_handAll {s : Session} (hs : ¬ Blocked s.desk.storage) (engine : Value)
    (qs : List String) : ¬ Blocked (handAll engine qs s).desk.storage := by
  induction qs generalizing s with
  | nil => exact hs
  | cons q qs ih => exact ih (not_blocked_handOver hs engine q)

/-- **A query that cannot be applied** changes nothing but the log, as long as the document can be
loaded. -/
theorem handOver_of_error {s : Session} (hs : ¬ Blocked s.desk.storage) {name q : String}
    {fault : ValueFault} (hfault : (handOver (.text name) q s).1 = .error fault) :
    ∃ log, (handOver (.text name) q s).2 = relog log s := by
  have hrun : handOver (.text name) q s = Session.change (.text name) (.query (.text q))
      (Session.onDesk (Desk.report .debug "debounce"
        ("Applying search query " ++ Text.quoted q)) s).2 := rfl
  obtain ⟨log, hlog⟩ : ∃ log, (Session.onDesk (Desk.report .debug "debounce"
      ("Applying search query " ++ Text.quoted q)) s).2 = relog log s := ⟨_, rfl⟩
  rw [hrun, hlog, Session.change_apply] at hfault ⊢
  have hresult := Session.result_changeBy (Session.changeWithin (relog log s).pending (.text name))
    (.text name) (.query (.text q)) (relog log s)
  cases happly : (Change.query (.text q)).apply ((relog log s).engineOf (.text name)).spec with
  | error parsing =>
    obtain ⟨log', halter⟩ := Session.alter_apply (.text name) (.query (.text q)) (relog log s)
    rw [happly] at halter
    rw [Session.changeBy_apply, halter]
    exact ⟨log', rfl⟩
  | ok spec =>
    -- What was parsed is flat, and so it would have been stored.
    have hflat : spec.Fieldwise fun _ => Flat := Change.IsFlat.apply (c := .query (.text q)) trivial
      (Spec.fieldwise_unconstrained flat_default) happly
    have hstorage := Session.storage_alter (.text name) (.query (.text q)) (relog log s)
    have hpersist : (Session.persist (.text name) _).1 = .ok () ∧ _ :=
      Session.persist_flat (hstorage ▸ hs) (Session.spec_alter_of_ok happly ▸ hflat)
    rw [happly] at hresult
    cases hfault.symm.trans (hresult.trans hpersist.1)

/-- A query that cannot be applied leaves no trace: neither the debouncer nor the filters or the
storage know of it, and whatever happens next is as if the query had been dropped. -/
def FailsCleanly (t : Typing) : Prop :=
  ∀ q e fault, t.debouncer.waiting = .text q →
    (e = .flush ∨ e = .settle ∧ t.debouncer.loop.due ≠ []) →
    (handOver t.engine q t.session).1 = .error fault →
    (perform e t).2.debouncer.pending = false ∧
    ((perform e t).2.session.engineOf t.engine).spec = (t.session.engineOf t.engine).spec ∧
    (perform e t).2.session.desk.storage = t.session.desk.storage ∧
    ∀ es, (∃ log, after es (perform e t).2 = relog log (after es (perform .cancel t).2)) ∧
      ∀ e', (perform e' (after es (perform e t).2)).1 =
        (perform e' (after es (perform .cancel t).2)).1

/-- The query that waits is taken by a flush, or by the loop when its time has come. -/
theorem taken_eq {q : String} {e : Event} (h : Waits d w) (hwaiting : d.waiting = .text q)
    (he : e = .flush ∨ e = .settle ∧ d.loop.due ≠ []) :
    taken d.loop.now w e = some q ∧ step d e = d.idle := by
  cases w with
  | none => cases hwaiting.symm.trans h.2.2
  | some w =>
    obtain ⟨id, -, htimers, hwaits⟩ := h
    obtain rfl : w.1 = q := Value.text.inj (hwaits.symm.trans hwaiting)
    rcases he with rfl | ⟨rfl, hdue⟩
    · exact ⟨rfl, rfl⟩
    · have hreached : reached d.loop.now w.2 = true := by
        by_contra hnot
        rw [due_eq htimers, if_neg hnot] at hdue
        exact hdue rfl
      rw [taken, Option.filter_some, hreached, step, due_eq htimers, hreached]
      exact ⟨rfl, rfl⟩

theorem failsCleanly {name : String} (h : Waits t.debouncer w) (hengine : t.engine = .text name)
    (hs : ¬ Blocked t.session.desk.storage) : FailsCleanly t := by
  intro q e fault hwaiting he hfault
  obtain ⟨htaken, hstep⟩ := taken_eq h hwaiting he
  rw [hengine] at hfault
  obtain ⟨log, hlog⟩ := handOver_of_error hs hfault
  have hperform : (perform e t).2 = relog log (perform .cancel t).2 := by
    rw [perform_eq h, htaken, hstep, hengine]
    dsimp only
    rw [hlog, ← hengine]
    rfl
  have hidle : Waits (perform .cancel t).2.debouncer none := h.idle
  rw [hperform]
  refine ⟨rfl, rfl, rfl, fun es => ?_⟩
  obtain ⟨log', hafter⟩ := blind_after hidle es log
  obtain ⟨⟨w', hwaits⟩, -⟩ := waits_after hidle es
  refine ⟨⟨log', hafter⟩, fun e' => ?_⟩
  obtain ⟨log'', hnext⟩ := blind_perform hwaits e' log'
  rw [hafter, hnext]

/-- An idle debouncer for a session without engines, on memory that holds something under the key of
the document. -/
def holdingRaw (raw : Value) : Typing where
  session := Session.holdingRaw raw

theorem waits_holdingRaw (raw : Value) : Waits (holdingRaw raw).debouncer none := ⟨rfl, rfl, rfl⟩

/-- Where the stored text is nested too deeply, a query fails when it is applied, and yet it changes
the filters. -/
theorem flush_holdingRaw {raw : Value} (hdeep : TooDeep raw) :
    (handOver (.text "main") "kind:function" (Session.holdingRaw raw)).1 = .error .tooDeep ∧
      (perform .flush (after [.input "kind:function"] (holdingRaw raw))).1 =
        .error (.value .tooDeep) ∧
      ((perform .flush (after [.input "kind:function"] (holdingRaw raw))).2.session.engineOf
        (.text "main")).spec.kind = .text "function" := by
  have hparses : (Change.query (.text "kind:function")).apply {} =
      .ok { kind := .text "function" } := rfl
  obtain ⟨u, hrun, -, hspec⟩ := Session.changeBy_of_blocked
    (Session.changeWithin (Session.holdingRaw raw).pending (.text "main"))
    (s := relog [⟨.debug, "debounce", "Applying search query " ++ Text.quoted "kind:function"⟩]
      (Session.holdingRaw raw)) (c := .query (.text "kind:function")) trivial
    { Session.lively_holdingRaw raw with } (Session.blocked_holdingRaw hdeep) hparses
  have hfails : handOver (.text "main") "kind:function" (Session.holdingRaw raw) =
      (.error .tooDeep, u) := hrun
  have hwaits := (waits_holdingRaw raw).step (.input "kind:function")
  have hperform : perform .flush (after [.input "kind:function"] (holdingRaw raw)) =
      ((handOver (.text "main") "kind:function" (Session.holdingRaw raw)).1.mapError .value,
        { debouncer := step (step (holdingRaw raw).debouncer (.input "kind:function")) .flush
          session := (handOver (.text "main") "kind:function" (Session.holdingRaw raw)).2 }) :=
    perform_eq (t := after [.input "kind:function"] (holdingRaw raw)) hwaits .flush
  rw [hperform, hfails]
  exact ⟨rfl, rfl, congrArg Spec.kind hspec⟩

/-- **Queries that are typed are applied after a pause**, or when that is asked for: in order, each
at most once, and exactly those that are not typed over or dropped before.  One that cannot be
applied leaves no trace, exactly if the stored text is not nested too deeply. -/
theorem typing_iff (raw : Value) :
    (∀ t, Waits t.debouncer none → ∀ es,
      OneTimer (after es t).debouncer ∧
      (after es t).session =
        handAll t.engine (handed t.debouncer.delay t.debouncer.loop.now es) t.session ∧
      (handed t.debouncer.delay t.debouncer.loop.now es).Sublist (inputs es)) ∧
    ((∀ t name, Waits t.debouncer none → t.engine = .text name →
      Storage.raw Vocabulary.stateKey t.session.desk.storage = raw →
      ∀ es, FailsCleanly (after es t)) ↔ ¬ TooDeep raw) := by
  refine ⟨fun t ht es => ?_, fun hlaw hdeep => ?_, fun hraw t name ht hengine hstored es => ?_⟩
  · obtain ⟨⟨w, hwaits⟩, -⟩ := waits_after ht es
    exact ⟨hwaits.oneTimer, session_after ht es, handed_sublist _ _ es⟩
  · obtain ⟨hfails, -, hkind⟩ := flush_holdingRaw hdeep
    have hclean := hlaw (holdingRaw raw) "main" (waits_holdingRaw raw) rfl
      (Session.raw_holdingRaw raw) [.input "kind:function"] "kind:function" .flush .tooDeep rfl
      (.inl rfl) hfails
    have hsame := congrArg Spec.kind hclean.2.1
    have hkinds : "function" = "all" := Value.text.inj (hkind.symm.trans hsame)
    exact absurd hkinds (by decide)
  · obtain ⟨⟨w, hwaits⟩, hkept⟩ := waits_after ht es
    refine failsCleanly hwaits (hkept.trans hengine) ?_
    rw [session_after ht es]
    exact not_blocked_handAll (by rwa [Blocked, hstored]) _ _

/-- Of two queries the first is typed over and the second is applied at once.  A third one waits,
and leaves no trace if it cannot be applied. -/
theorem typing_iff_typedOver :
    (after [.input "kind:enum", .input "kind:function", .flush, .input "state:dead"]
        (holdingRaw .null)).session =
      (handOver (.text "main") "kind:function" (Session.holdingRaw .null)).2 ∧
    FailsCleanly (after [.input "kind:enum", .input "kind:function", .flush, .input "state:dead"]
      (holdingRaw .null)) :=
  ⟨((typing_iff .null).1 _ (waits_holdingRaw .null) _).2.1,
    (typing_iff .null).2.2 Document.not_tooDeep_null _ "main" (waits_holdingRaw .null) rfl
      (Session.raw_holdingRaw .null) _⟩

/-- A query is typed and applied while a list of lists that is nested too deeply is stored.  It
fails, and it has changed the filters. -/
theorem trace_left_on_deepText :
    (handOver (.text "main") "kind:function" (Session.holdingRaw (.text Document.deepText))).1 =
        .error .tooDeep ∧
      (perform .flush (after [.input "kind:function"]
        (holdingRaw (.text Document.deepText)))).1 = .error (.value .tooDeep) ∧
      ((perform .flush (after [.input "kind:function"]
        (holdingRaw (.text Document.deepText)))).2.session.engineOf (.text "main")).spec.kind =
        .text "function" ∧
      ((holdingRaw (.text Document.deepText)).session.engineOf (.text "main")).spec.kind =
        .text "all" := by
  obtain ⟨hfails, hflush, hkind⟩ := flush_holdingRaw Document.tooDeep_deepText
  exact ⟨hfails, hflush, hkind, rfl⟩

end Typing

end SymbolSieve
