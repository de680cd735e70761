import SymbolSieve.Backend.Client

/-!
# Repeated requests

A request is sent again as long as it does not reach the backend, but no more often than is allowed.
So the outcomes that are still to come say everything: the first of them that is no miss decides, if
it comes in time, and otherwise the last one that was waited for does.

## What is here

* `Wire.outcome`, `Wire.first`: the outcomes in the order in which they come, and the place of the
  first one that is no miss.
* `attempt_eq`: how often a request is sent, and what becomes of it.
* `Client.put?`: the request that a path and its parameters make, if they make one.
* `send_of_put`, `send_of_not_put`: the answer to it, and what is left of the wire.
-/

set_option autoImplicit false

namespace SymbolSieve

/-! ## Outcomes to come -/

/-- An outcome after which a request may be sent again. -/
def Outcome.isMiss : Outcome → Bool
  | .unreached _ => true
  | _ => false

theorem Outcome.isMiss_iff {o : Outcome} : o.isMiss = true ↔ ∃ message, o = .unreached message := by
  cases o <;> simp [isMiss]

theorem Outcome.isMiss_eq_false_iff {o : Outcome} :
    o.isMiss = false ↔ (∃ a, o = .answered a) ∨ ∃ fault, o = .broken fault := by
  cases o <;> simp [isMiss]

namespace Wire

/-- The outcome of a request, counted from zero: what is given, and the empty answer after that. -/
def outcome (w : Wire) (i : Nat) : Outcome := w.coming[i]?.getD (.answered .empty)

/-- How many requests do not reach the backend before one does. -/
def misses (w : Wire) : Nat := (w.coming.takeWhile Outcome.isMiss).length

/-- The place of the first outcome that is no miss, counted from one. -/
def first (w : Wire) : Nat := w.misses + 1

/-- The wire after a request was sent so many times. -/
def after (w : Wire) (r : Request) (n : Nat) : Wire where
  coming := w.coming.drop n
  sent := w.sent ++ List.replicate n r

/-- The outcome that counts if a request may be sent so many times: the first one that is no miss,
or the last one. -/
def decisive (w : Wire) (n : Nat) : Outcome := w.outcome (min w.first n - 1)

variable (w : Wire) (r : Request)

theorem outcome_after (n i : Nat) : (w.after r n).outcome i = w.outcome (n + i) := by
  simp [outcome, after]

theorem after_after (n k : Nat) : (w.after r n).after r k = w.after r (n + k) := by
  simp [after]

theorem send_eq : w.send r = (w.outcome 0, w.after r 1) := by
  unfold send
  split <;> simp [outcome, after, *]

variable {w}

theorem first_of_hit (h : (w.outcome 0).isMiss = false) : w.first = 1 := by
  unfold outcome at h
  cases hcoming : w.coming with
  | nil => simp [first, misses, hcoming]
  | cons o rest =>
    rw [hcoming] at h
    have hhit : o.isMiss = false := h
    simp [first, misses, hcoming, hhit]

theorem first_of_miss (h : (w.outcome 0).isMiss = true) : w.first = (w.after r 1).first + 1 := by
  unfold outcome at h
  cases hcoming : w.coming with
  | nil =>
    rw [hcoming] at h
    cases h
  | cons o rest =>
    rw [hcoming] at h
    have hmiss : o.isMiss = true := h
    simp [first, misses, after, hcoming, hmiss]

variable (w)

/-- The first outcome that is no miss is none. -/
theorem isMiss_first : (w.outcome (w.first - 1)).isMiss = false := by
  simp only [outcome, first, misses, Nat.add_sub_cancel]
  generalize w.coming = os
  induction os with
  | nil => rfl
  | cons o os ih => cases hmiss : o.isMiss <;> simp [hmiss, ih]

variable {w}

/-- All outcomes in front of it are misses. -/
theorem isMiss_of_lt_first {i : Nat} (h : i + 1 < w.first) : (w.outcome i).isMiss = true := by
  simp only [first, misses, Nat.add_lt_add_iff_right] at h
  have hin := List.all_takeWhile (p := Outcome.isMiss) (l := w.coming)
  have hget := (List.takeWhile_prefix Outcome.isMiss (l := w.coming)).getElem h
  rw [outcome, List.getElem?_eq_getElem (Nat.lt_of_lt_of_le h (List.takeWhile_prefix _).length_le),
    Option.getD_some, ← hget]
  exact List.all_eq_true.1 hin _ (List.getElem_mem h)

/-- Outcomes that come in time decide. -/
theorem decisive_of_le {n : Nat} (h : w.first ≤ n) : w.decisive n = w.outcome (w.first - 1) := by
  rw [decisive, Nat.min_eq_left h]

/-- If all outcomes that are waited for are misses, the last one counts. -/
theorem decisive_of_lt {n : Nat} (h : n < w.first) : w.decisive n = w.outcome (n - 1) := by
  rw [decisive, Nat.min_eq_right (Nat.le_of_lt h)]

end Wire

namespace Client

/-! ## Requests and their repetitions -/

/-- An answer as the result of a request, and any other outcome as its failure. -/
def answerOf : Outcome → Except Outcome Response
  | .answered a => .ok a
  | o => .error o

/-- **A request is sent up to the first outcome that is no miss**, or as often as is allowed, and the
last outcome is its result. -/
theorem attempt_eq (r : Request) (more : Nat) (w : Wire) :
    attempt r more w =
      (answerOf (w.decisive (more + 1)), w.after r (min w.first (more + 1))) := by
  induction more generalizing w with
  | zero =>
    have hmin : min w.first 1 = 1 := Nat.min_eq_right (Nat.le_add_left 1 _)
    rw [attempt, Wire.send_eq, Wire.decisive, hmin]
    cases w.outcome 0 <;> rfl
  | succ more ih =>
    rw [attempt, Wire.send_eq]
    cases hmiss : (w.outcome 0).isMiss with
    | false =>
      have hmin : min w.first (more + 1 + 1) = 1 := by
        rw [Wire.first_of_hit hmiss]
        omega
      rw [Wire.decisive, hmin]
      obtain ⟨a, ho⟩ | ⟨fault, ho⟩ := Outcome.isMiss_eq_false_iff.1 hmiss <;> simp [ho, answerOf]
    | true =>
      have hmin : min w.first (more + 1 + 1) = min (w.after r 1).first (more + 1) + 1 := by
        rw [Wire.first_of_miss r hmiss]
        omega
      have hpos : 1 ≤ min (w.after r 1).first (more + 1) :=
        Nat.le_min.2 ⟨Nat.le_add_left 1 _, Nat.le_add_left 1 _⟩
      obtain ⟨message, ho⟩ := Outcome.isMiss_iff.1 hmiss
      simp only [ho, ih, Wire.decisive, hmin, Wire.outcome_after, Wire.after_after]
      rw [Nat.add_comm 1, Nat.sub_add_cancel hpos, Nat.add_sub_cancel, Nat.add_comm 1]

/-- How many times a request may be sent.  It is always sent once. -/
def allowed (c : Client) : Nat := c.attempts.toNat - 1 + 1

/-- What becomes of a request to an address, by the outcome that counts. -/
def resultOf (c : Client) (address : Address) : Outcome → Except ClientFault Response
  | .answered a => if address.isReachable then .ok a else .error (.value .malformed)
  | .unreached message => .error (.backend (.unreachable c.base message))
  | .broken fault => .error fault

theorem exchange_eq (c : Client) (r : Request) (address : Address) (d : Desk) :
    (c.exchange r address).run d = (c.resultOf address (d.wire.decisive c.allowed),
      { d with wire := d.wire.after r (min d.wire.first c.allowed) }) := by
  rw [exchange, StateT.run_bind]
  have hwire : (onWire (attempt r (c.attempts.toNat - 1))).run d =
      (answerOf (d.wire.decisive c.allowed),
        { d with wire := d.wire.after r (min d.wire.first c.allowed) }) := by
    show ((attempt r (c.attempts.toNat - 1) d.wire).1, { d with wire := _ }) = _
    rw [attempt_eq, allowed]
  rw [hwire]
  cases d.wire.decisive c.allowed <;> rfl

/-- How the parameters of a request are shown. -/
def shownParams : Option Entries → Except ValueFault String
  | some es => (Value.map es).quoted
  | none => Value.null.quoted

/-- The request for a path with parameters and its address, if they make one. -/
def put? (c : Client) (path : String) (params : Option Entries) : Option (Request × Address) :=
  match shownParams params, params.mapM Parameters.ofEntries with
  | .ok _, .ok sent => c.request? path sent
  | _, _ => none

/-- What sending a request comes to.  It is logged as soon as its parameters can be shown. -/
theorem run_send (c : Client) (path : String) (params : Option Entries) (d : Desk) :
    (c.send path params).run d = match shownParams params with
      | .error fault => (.error (.value fault), d)
      | .ok shown =>
        let d' := { d with log := d.log ++ [⟨.debug, "backend",
          "GET " ++ path ++ " params=" ++ shown⟩] }
        match params.mapM Parameters.ofEntries with
        | .error fault => (.error (.value fault), d')
        | .ok sent => match c.request? path sent with
          | some (r, address) => (c.exchange r address).run d'
          | none => (.error .badAddress, d') := by
  -- The definition asks for the parameters once more, so it opens only for parameters in sight.
  cases hshown : shownParams params with
  | error fault => cases params <;> (rw [shownParams] at hshown; simp only [send, hshown]; rfl)
  | ok shown =>
    cases hsent : params.mapM Parameters.ofEntries with
    | error fault =>
      cases params <;> (rw [shownParams] at hshown; simp only [send, hshown, hsent]; rfl)
    | ok sent =>
      cases hput : c.request? path sent <;> cases params <;>
        (rw [shownParams] at hshown; simp only [send, hshown, hsent, hput]; rfl)

variable {c : Client} {path : String} {params : Option Entries}

/-- **The answer to a request**, and the wire after it. -/
theorem send_of_put {r : Request} {address : Address} (h : c.put? path params = some (r, address))
    (d : Desk) : ∃ log, (c.send path params).run d =
      (c.resultOf address (d.wire.decisive c.allowed),
        { d with wire := d.wire.after r (min d.wire.first c.allowed), log }) := by
  unfold put? at h
  split at h
  next shown sent hshown hsent =>
    have hrun := run_send c path params d
    simp only [hshown, hsent, h] at hrun
    exact ⟨_, hrun.trans (exchange_eq c r address _)⟩
  next => cases h

/-- Where there is no request, nothing is sent. -/
theorem send_of_not_put (h : c.put? path params = none) (d : Desk) :
    ∃ fault log, (∀ e, fault ≠ .backend e) ∧
      (c.send path params).run d = (.error fault, { d with log }) := by
  simp only [run_send]
  unfold put? at h
  split
  next fault _ => exact ⟨.value fault, d.log, nofun, rfl⟩
  next shown hshown =>
    split
    next fault _ => exact ⟨.value fault, _, nofun, rfl⟩
    next sent hsent =>
      simp only [hshown, hsent] at h
      simp only [h]
      exact ⟨.badAddress, _, nofun, rfl⟩

end Client

end SymbolSieve
