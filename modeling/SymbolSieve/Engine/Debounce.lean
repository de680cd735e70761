import SymbolSieve.Engine.Session

/-!
# Waiting for a pause in typing

While a query is being typed, every keystroke starts a timer anew, and the query is applied once the
timer has run out. It can also be applied at once, or dropped.

Timers belong to a loop with a clock of its own. A timer that was set runs once, when the clock has
reached its time, unless it is cancelled before.

## What is here

* `TimerLoop`: the clock and the timers that are set.
* `Debouncer`: the query that waits and the timer that it waits for.
* `Typing`: a debouncer with the session of its engine; `input`, `cancel`, `flush`, `advance` and
  `settle` are what can happen to it.
-/

set_option autoImplicit false

namespace SymbolSieve

/-! ## Timers -/

/-- A timer, and the time in seconds at which it runs. -/
structure Timer where
  id : Nat
  due : Binary64
  deriving DecidableEq, Repr

/-- A clock, in seconds, and the timers that are set, in the order in which they were set. -/
structure TimerLoop where
  now : Binary64 := .zero false
  timers : List Timer := []
  /-- The id of the next timer. -/
  next : Nat := 0
  deriving DecidableEq, Repr

namespace TimerLoop

/-- Sets a timer. -/
def schedule (l : TimerLoop) (delay : Binary64) : Nat × TimerLoop :=
  (l.next, { l with timers := l.timers ++ [⟨l.next, l.now.add delay⟩], next := l.next + 1 })

/-- Cancels a timer; one that has run or was cancelled before is not there any more. -/
def cancel (l : TimerLoop) (id : Nat) : TimerLoop :=
  { l with timers := l.timers.filter (·.id != id) }

/-- Lets time pass. -/
def advance (l : TimerLoop) (seconds : Binary64) : TimerLoop := { l with now := l.now.add seconds }

/-- The time that the clock cannot tell apart from the next one. -/
def resolution : Binary64 := Binary64.ofDecimal false 1 (-9)

/-- Whether the time of a timer has come. A time that is no number has always come. -/
def isDue (l : TimerLoop) (t : Timer) : Bool :=
  match t.due.compare? (l.now.add resolution) with
  | some .gt | some .eq => false
  | _ => true

/-- The timers whose time has come, in the order of their times. -/
def due (l : TimerLoop) : List Timer :=
  (l.timers.filter l.isDue).mergeSort fun a b => a.due.compare? b.due != some .gt

end TimerLoop

/-! ## Debouncers -/

/-- The length of the pause in seconds when none is given. -/
def defaultDelay : Binary64 := Binary64.ofRatio false 3 10

/-- A query that waits for a pause, and the timer that it waits for. -/
structure Debouncer where
  /-- The length of the pause in seconds. -/
  delay : Binary64 := defaultDelay
  loop : TimerLoop := {}
  handle : Option Nat := none
  waiting : Value := .null

namespace Debouncer

/-- Whether a query waits. -/
def pending (d : Debouncer) : Bool := d.handle.isSome

/-- Without a query that waits, and without its timer. -/
def idle (d : Debouncer) : Debouncer :=
  { d with
    loop := match d.handle with
      | some id => d.loop.cancel id
      | none => d.loop
    handle := none
    waiting := .null }

/-- With another query that waits, and a timer for it. -/
def restart (d : Debouncer) (query : Value) : Debouncer :=
  let d := d.idle
  let (id, loop) := d.loop.schedule d.delay
  { d with loop, handle := some id, waiting := query }

end Debouncer

/-! ## Typing into a session -/

/-- Why something cannot be done. -/
inductive DebounceFault where
  /-- Timers cannot be set, because no loop is running. -/
  | noLoop
  | value (fault : ValueFault)
  deriving DecidableEq, Repr

/-- A debouncer with the session that it works on, and the name of its engine. -/
structure Typing where
  debouncer : Debouncer := {}
  session : Session := {}
  engine : Value := .text "main"

namespace Typing

/-- An operation on the session. -/
def onSession {α : Type} (action : StateM Session α) : StateM Typing α :=
  fun t => let (x, s) := action t.session; (x, { t with session := s })

/-- Applies the query that waits, and is idle from then on, even if the query cannot be read. -/
def fire : StateM Typing (Except DebounceFault Unit) := do
  let t ← get
  let query := t.debouncer.waiting.orElse (.text "")
  set { t with debouncer := t.debouncer.idle }
  match query.quoted with
  | .error fault => return .error (.value fault)
  | .ok shown =>
    onSession (Session.onDesk
      (Desk.report .debug "debounce" ("Applying search query " ++ shown)))
    return (← onSession (Session.change t.engine (.query query))).mapError .value

/-- A keystroke: the query as it now reads. Nothing happens if no loop is running. -/
def input (running : Bool) (query : Value) : StateM Typing (Except DebounceFault Unit) := do
  if !running then return .error .noLoop
  modify fun t => { t with debouncer := t.debouncer.restart query }
  return .ok ()

/-- Drops the query that waits. -/
def cancel : StateM Typing Unit :=
  modify fun t => { t with debouncer := t.debouncer.idle }

/-- Applies the query that waits at once, if there is one. -/
def flush : StateM Typing (Except DebounceFault Unit) := do
  if (← get).debouncer.pending then fire else return .ok ()

/-- Lets time pass. -/
def advance (seconds : Binary64) : StateM Typing Unit :=
  modify fun t => { t with
    debouncer := { t.debouncer with loop := t.debouncer.loop.advance seconds } }

/-- Runs timers in order, each unless it was cancelled in the meantime. What fails in a timer is
nobody's concern. -/
def runTimers : List Timer → StateM Typing Unit
  | [] => pure ()
  | timer :: rest => do
    let t ← get
    if t.debouncer.loop.timers.contains timer then
      set { t with debouncer := { t.debouncer with loop := t.debouncer.loop.cancel timer.id } }
      let _ ← fire
    runTimers rest

/-- Runs the timers whose time has come. -/
def settle : StateM Typing Unit := do runTimers (← get).debouncer.loop.due

end Typing

end SymbolSieve
