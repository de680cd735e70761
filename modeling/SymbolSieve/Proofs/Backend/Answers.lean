import SymbolSieve.Proofs.Backend.Attempts
import SymbolSieve.Proofs.Json.Plain
import SymbolSieve.Proofs.Json.Unlimited

/-!
# What the backend answers

The backend is asked for statistics or for a list of symbols.  The same request is sent until one
does not miss or none is left, and the answer is the value that the body of the last response spells,
or an error that says what went wrong: that the backend was not reached, that it refused, or that
what it sent is no value.

A text can stand for a value and still not be read, because its integers are too long.  A text that
is nested too deeply is not even known to stand for none, and the error that says so is none of the
backend's.

## What is here

* `Question`, `Client.ask`: what the backend can be asked for, and the answer.
* `ask_of_request`, `ask_of_no_request`: the answer by the outcome that counts.
* `Answers`, `AsksDuly`: the result that belongs to an outcome, and a question that gets it.
* `asksDuly_iff`: when that is so; `not_asksDuly_unclosed`, an answer that is nested too deeply.
-/

set_option autoImplicit false

namespace SymbolSieve

/-! ## Questions -/

/-- What the backend can be asked for: statistics, or a list of symbols under the coarse filters and
up to a length. -/
inductive Question where
  | stats
  | list (spec : Option Spec) (limit : Value)

/-- Where the backend has the answer to a question. -/
def Question.path : Question → String
  | .stats => "/api/stats"
  | .list _ _ => "/api/list"

/-- The parameters of a question. -/
def Question.params : Question → Except ValueFault (Option Entries)
  | .stats => .ok none
  | .list spec limit => (Client.listParams spec limit).map some

namespace Client

variable (c : Client)

/-- Asks the backend a question. -/
def ask : Question → StateM Desk (Except ClientFault Value)
  | .stats => c.fetchStats
  | .list spec limit => c.fetchList spec limit

/-- The request for a question and its address, if there is one. -/
def requestFor? (q : Question) : Option (Request × Address) :=
  q.params.toOption.bind (c.put? q.path)

/-- The value that an answer to a request has. -/
def valueOf (path : String) : Except ClientFault Response → Except ClientFault Value
  | .error e => .error e
  | .ok r => if 400 ≤ r.status then .error (.backend (.refused path r.status)) else decodeBody path r

theorem run_getJson (path : String) (params : Option Entries) (d : Desk) :
    (c.getJson path params).run d =
      (valueOf path ((c.send path params).run d).1, ((c.send path params).run d).2) := by
  rw [getJson, StateT.run_bind]
  generalize (c.send path params).run d = sent
  obtain ⟨answer, d'⟩ := sent
  cases answer with
  | error e => rfl
  | ok r =>
    show StateT.run (if 400 ≤ r.status then pure (Except.error (.backend (.refused path r.status)))
      else pure (decodeBody path r)) d' = _
    by_cases hstatus : 400 ≤ r.status
    · rw [if_pos hstatus, valueOf, if_pos hstatus]
      rfl
    · rw [if_neg hstatus, valueOf, if_neg hstatus]
      rfl

/-- A question is a request for its path, if its parameters are values. -/
theorem ask_eq (q : Question) : c.ask q =
    match q.params with
    | .error fault => pure (.error (.value fault))
    | .ok params => c.getJson q.path params := by
  cases q with
  | stats => rfl
  | list spec limit =>
    rw [ask, fetchList, Question.params]
    cases listParams spec limit <;> rfl

variable {c}

theorem requestFor?_eq_some_iff {q : Question} {p : Request × Address} :
    c.requestFor? q = some p ↔ ∃ params, q.params = .ok params ∧ c.put? q.path params = some p := by
  rw [requestFor?]
  cases q.params <;> simp [Except.toOption]

/-- **The answer to a question**, by the outcome that counts. -/
theorem ask_of_request {q : Question} {r : Request} {address : Address}
    (h : c.requestFor? q = some (r, address)) (d : Desk) : ∃ log, (c.ask q).run d =
      (valueOf q.path (c.resultOf address (d.wire.decisive c.allowed)),
        { d with wire := d.wire.after r (min d.wire.first c.allowed), log }) := by
  obtain ⟨params, hparams, hput⟩ := requestFor?_eq_some_iff.1 h
  obtain ⟨log, hsend⟩ := send_of_put hput d
  refine ⟨log, ?_⟩
  rw [ask_eq, hparams]
  dsimp only
  rw [run_getJson, hsend]

/-- Where there is no request, nothing is sent. -/
theorem ask_of_no_request {q : Question} (h : c.requestFor? q = none) (d : Desk) :
    ∃ fault log, (∀ e, fault ≠ .backend e) ∧ (c.ask q).run d = (.error fault, { d with log }) := by
  rw [ask_eq]
  cases hparams : q.params with
  | error fault => exact ⟨.value fault, d.log, nofun, rfl⟩
  | ok params =>
    rw [requestFor?, hparams] at h
    obtain ⟨fault, log, hfault, hsend⟩ := send_of_not_put h d
    refine ⟨fault, log, hfault, ?_⟩
    dsimp only
    rw [run_getJson, hsend, valueOf]

/-! ## Results that belong to outcomes -/

/-- The result that belongs to an outcome that is no miss. -/
inductive Answers (path : String) : Outcome → Except ClientFault Value → Prop
  | refused {r : Response} (hstatus : 400 ≤ r.status) :
    Answers path (.answered r) (.error (.backend (.refused path r.status)))
  | value {r : Response} {v : Value} (hstatus : r.status < 400)
    (hbody : Json.Spells r.body.toUTF8 v) : Answers path (.answered r) (.ok v)
  | notJson {r : Response} (hstatus : r.status < 400)
    (hbody : ∀ v, ¬ Json.Spells r.body.toUTF8 v) :
    Answers path (.answered r) (.error (.backend (.notJson path)))
  | broken {fault : ClientFault} : Answers path (.broken fault) (.error fault)

/-- A question that is asked as it should be, with so many attempts: one request is sent up to the
first outcome that is no miss, whose result it has, and otherwise as often as is allowed, and then
the error names the last miss. -/
structure AsksDuly (c : Client) (q : Question) (d : Desk) (n : Nat) : Prop where
  sent : ∃ r, ((c.ask q).run d).2.wire = d.wire.after r (min d.wire.first n)
  decided : d.wire.first ≤ n →
    Answers q.path (d.wire.outcome (d.wire.first - 1)) ((c.ask q).run d).1
  unreached : n < d.wire.first → ∃ message, d.wire.outcome (n - 1) = .unreached message ∧
    ((c.ask q).run d).1 = .error (.backend (.unreachable c.base message))

/-- The body of a response is the result that belongs to it, as far as the limits let it be read. -/
theorem answers_decodeBody_iff {path : String} {r : Response} (hstatus : r.status < 400) :
    Answers path (.answered r) (decodeBody path r) ↔ Json.WithinLimits r.body.toUTF8 := by
  rw [decodeBody]
  rcases Json.decodeBytes_cases r.body.toUTF8 with
    ⟨v, hv, hread⟩ | ⟨hnone, fault, hdeep, hread⟩ | hread | hread
  · rw [hread]
    exact iff_of_true (.value hstatus hv) (.of_ok hread)
  · rw [hread]
    refine iff_of_true ?_ ⟨by rw [hread]; simpa using hdeep, fun ⟨v, hv⟩ => absurd hv (hnone v)⟩
    cases fault with
    | tooDeep => exact absurd rfl hdeep
    | _ => exact .notJson hstatus hnone
  · rw [hread]
    constructor
    · rintro ⟨⟩
      next hnone => exact ⟨by rw [hread]; nofun, fun ⟨v, hv⟩ => absurd hv (hnone v)⟩
    · intro hwithin
      exact .notJson hstatus fun v hv => hwithin.digits ⟨v, hv⟩ hread
  · rw [hread]
    exact iff_of_false nofun fun hwithin => hwithin.depth hread

/-- **A response has the result that belongs to it** if it came from an address that says how it is
reached, and if the limits do not matter for what a good one holds. -/
theorem answers_iff {path : String} {address : Address} {r : Response} :
    Answers path (.answered r) (valueOf path (c.resultOf address (.answered r))) ↔
      address.isReachable ∧ (r.status < 400 → Json.WithinLimits r.body.toUTF8) := by
  rw [resultOf]
  cases address.isReachable with
  | false => exact iff_of_false nofun (by simp)
  | true =>
    rw [if_pos rfl, valueOf]
    by_cases hstatus : 400 ≤ r.status
    · rw [if_pos hstatus]
      exact iff_of_true (.refused hstatus) ⟨rfl, fun hlt => absurd hlt (Int.not_lt.2 hstatus)⟩
    · have hlt := Int.not_le.1 hstatus
      rw [if_neg hstatus, answers_decodeBody_iff hlt]
      exact ⟨fun hwithin => ⟨rfl, fun _ => hwithin⟩, fun h => h.2 hlt⟩

/-- **A question is asked as it should be** exactly if there is a request for it, and if the response
that decides, if there is one, came from an address that says how it is reached and holds nothing
beyond the limits. -/
theorem asksDuly_iff (c : Client) (q : Question) (d : Desk) (n : Nat) (hn : 1 ≤ n)
    (hattempts : c.attempts = n) : AsksDuly c q d n ↔
      ∃ r address, c.requestFor? q = some (r, address) ∧
        ∀ a, d.wire.first ≤ n → d.wire.outcome (d.wire.first - 1) = .answered a →
          address.isReachable ∧ (a.status < 400 → Json.WithinLimits a.body.toUTF8) := by
  have hallowed : c.allowed = n := by
    rw [allowed, hattempts, Int.toNat_natCast]
    omega
  cases hrequest : c.requestFor? q with
  | none =>
    obtain ⟨fault, log, -, hrun⟩ := ask_of_no_request hrequest d
    refine iff_of_false (fun hduly => ?_) (by simp)
    obtain ⟨r, hsent⟩ := hduly.sent
    have hlength := congrArg (fun w => w.sent.length) hsent
    have hfirst : 1 ≤ d.wire.first := Nat.le_add_left 1 _
    simp [hrun, Wire.after] at hlength
    omega
  | some p =>
    obtain ⟨r, address⟩ := p
    obtain ⟨log, hrun⟩ := ask_of_request hrequest d
    rw [hallowed] at hrun
    constructor
    · intro hduly
      refine ⟨r, address, rfl, fun a hle ha => ?_⟩
      have hresult := hduly.decided hle
      rw [hrun, Wire.decisive_of_le hle, ha] at hresult
      exact answers_iff.1 hresult
    · rintro ⟨_, _, ⟨⟩, hanswer⟩
      refine ⟨⟨r, by rw [hrun]⟩, fun hle => ?_, fun hlt => ?_⟩
      · rw [hrun, Wire.decisive_of_le hle]
        obtain ⟨a, ho⟩ | ⟨fault, ho⟩ := Outcome.isMiss_eq_false_iff.1 d.wire.isMiss_first
        · rw [ho]
          exact answers_iff.2 (hanswer a hle ho)
        · rw [ho]
          exact .broken
      · obtain ⟨message, ho⟩ := Outcome.isMiss_iff.1
          (Wire.isMiss_of_lt_first (w := d.wire) (i := n - 1) (by omega))
        rw [hrun, Wire.decisive_of_lt hlt, ho]
        exact ⟨message, rfl, rfl⟩

/-! ## Questions about statistics -/

/-- The backend at its usual place, which is asked twice. -/
def twice : Client where
  base := defaultBase
  root :=
    { scheme := "http".toList
      authority := { host := "127.0.0.1".toList, number := some 7878 }
      path := ['/'] }
  attempts := 2

/-- A desk with some outcomes that are to come. -/
def deskAwaiting (coming : List Outcome) : Desk where
  wire := { coming }

/-- A good response that is nested too deeply. -/
def unclosed : Response := ⟨200, String.ofList (List.replicate 1500 '[')⟩

/-- There is a request for statistics, to an address that says how it is reached. -/
theorem requestFor?_stats : ∃ r address, twice.requestFor? .stats = some (r, address) ∧
    address.isReachable = true := by
  have hrequest : (twice.requestFor? .stats).any (fun p => p.2.isReachable) = true := by
    decide +kernel
  obtain ⟨⟨r, address⟩, hsome, hreachable⟩ := (Option.any_eq_true _ _).1 hrequest
  exact ⟨r, address, hsome, hreachable⟩

/-- After a miss, the second request is answered well, and what it holds is a list. -/
theorem asksDuly_iff_second : 1 ≤ 2 ∧ twice.attempts = (2 : Nat) ∧
    AsksDuly twice .stats (deskAwaiting [.unreached "refused", .answered ⟨200, "[1]"⟩]) 2 := by
  obtain ⟨r, address, hrequest, hreachable⟩ := requestFor?_stats
  refine ⟨by decide, rfl, (asksDuly_iff twice .stats _ 2 (by decide) rfl).2
    ⟨r, address, hrequest, fun a _ ha => ⟨hreachable, fun _ => ?_⟩⟩⟩
  obtain rfl : (⟨200, "[1]"⟩ : Response) = a := Outcome.answered.inj ha
  have hread : (Json.decodeBytes "[1]".toUTF8).toOption.isSome = true := by decide +kernel
  cases hvalue : Json.decodeBytes "[1]".toUTF8 with
  | ok v => exact .of_ok hvalue
  | error fault =>
    rw [hvalue] at hread
    cases hread

theorem decodeBytes_unclosed : Json.decodeBytes unclosed.body.toUTF8 = .error .tooDeep := by
  have hascii : ∀ c ∈ unclosed.body.toList, 0 < c.toNat ∧ c.toNat < 0x80 := by
    intro c hc
    rw [unclosed, String.toList_ofList] at hc
    rw [List.eq_of_mem_replicate hc]
    decide
  have hnested := Json.decode_nested (n := 1500) (by decide) []
  rw [List.append_nil] at hnested
  exact (Json.decodeBytes_of_ascii hascii).trans hnested

/-- A good response beyond the limits does not have the result that belongs to it. -/
theorem not_asksDuly_of_beyond {a : Response} (hstatus : a.status < 400)
    (hbeyond : ¬ Json.WithinLimits a.body.toUTF8) :
    ¬ AsksDuly twice .stats (deskAwaiting [.answered a]) 2 := by
  intro hduly
  obtain ⟨r, address, hrequest, -⟩ := requestFor?_stats
  obtain ⟨log, hrun⟩ := ask_of_request hrequest (deskAwaiting [.answered a])
  have hresult := hduly.decided (Nat.le_add_left 1 1)
  rw [hrun] at hresult
  exact hbeyond ((answers_iff.1 hresult).2 hstatus)

/-- **A response that is nested too deeply** does not have the result that belongs to it. -/
theorem not_asksDuly_unclosed : 1 ≤ 2 ∧ twice.attempts = (2 : Nat) ∧
    ¬ AsksDuly twice .stats (deskAwaiting [.answered unclosed]) 2 :=
  ⟨by decide, rfl, not_asksDuly_of_beyond (by decide) fun h => h.depth decodeBytes_unclosed⟩

end Client

end SymbolSieve
