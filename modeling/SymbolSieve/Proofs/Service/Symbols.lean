import SymbolSieve.Proofs.Backend.Answers
import SymbolSieve.Proofs.Presets.Acknowledged
import SymbolSieve.Proofs.Selection.Independence
import SymbolSieve.Proofs.Selection.Requested

/-!
# Symbols on request

The service asks the backend for symbols and filters what comes back.  A backend that cannot be
reached, refuses, or sends what is no value is reported as a bad gateway.  But not all trouble with
the backend is of that kind: an answer may be a value that holds no list of symbols, or symbols that
have no verdict, and then the service itself fails.

## What is here

* `Judged`, `Listable`: records on which a specification has a verdict that can be shown, and answers
  of the backend that hold such records.
* `status_symbolsFound`: the reply to symbols that were fetched.
* `Handled`, `answer_symbols_iff`: the outcomes with which the service can deal, and what it replies.
* `listable_of_regular`: records as they should be are no trouble.
* `answer_symbols_fails`: an answer that is a list and not a mapping.
-/

set_option autoImplicit false

namespace SymbolSieve

open Selection

/-! ## Answers that can be listed -/

/-- A record that is selected or not, and whose numbers are finite if it is. -/
def Judged (spec : Spec) (record : Value) : Prop :=
  ∃ chosen, selects spec record = .ok chosen ∧
    (chosen = true → Json.isStrict (Json.disclosed record) = true)

/-- What stands for records in an answer: a list of them, or a text or a mapping, in which there are
none. -/
inductive Judgeable (spec : Spec) : Value → Prop
  | text {s : String} : Judgeable spec (.text s)
  | map {es : Entries} : Judgeable spec (.map es)
  | list {records : List Value} (h : ∀ r ∈ records, Judged spec r) : Judgeable spec (.list records)

/-- An answer whose symbols can be listed: a mapping with something under `items` that stands for
records.  What does not count as present stands for none. -/
def Listable (spec : Spec) (answer : Value) : Prop :=
  ∃ es, answer = .map es ∧
    Judgeable spec (((Assoc.get? "items" es).getD .null).orElse (.list []))

namespace Service

/-! ## Replies -/

theorem isStrictItems_disclosedItems {vs : List Value} :
    Json.isStrictItems (Json.disclosedItems vs) = true ↔
      ∀ v ∈ vs, Json.isStrict (Json.disclosed v) = true := by
  induction vs with
  | nil => simp [Json.disclosedItems, Json.isStrictItems]
  | cons v vs ih => simp [Json.disclosedItems, Json.isStrictItems, ih]

/-- A result can be shown if what was chosen can. -/
theorem isStrict_result (query : String) (total matched : Int) (chosen : List Value) :
    Json.isStrict (Json.disclosed (.map [("query", .text query), ("total", .int total),
      ("matched", .int matched), ("items", .list chosen)])) = true ↔
      ∀ r ∈ chosen, Json.isStrict (Json.disclosed r) = true := by
  have hshown : Json.isInternal "query" = false ∧ Json.isInternal "total" = false ∧
      Json.isInternal "matched" = false ∧ Json.isInternal "items" = false := by decide
  obtain ⟨hquery, htotal, hmatched, hitems⟩ := hshown
  simp [Json.disclosed, Json.disclosedEntries, Json.isStrict, Json.isStrictEntries, hquery, htotal,
    hmatched, hitems, isStrictItems_disclosedItems]

/-- The records that are chosen, if they can be shown. -/
theorem exists_select_iff {spec : Spec} {records : Value} :
    (∃ chosen total, select spec records = .ok chosen ∧ records.size = .ok total ∧
      ∀ r ∈ chosen, Json.isStrict (Json.disclosed r) = true) ↔ Judgeable spec records := by
  cases records with
  | text t => exact iff_of_true ⟨[], _, rfl, rfl, by simp⟩ .text
  | map es => exact iff_of_true ⟨[], _, rfl, rfl, by simp⟩ .map
  | list rs =>
    have hselect : (∃ chosen, selectBy id spec rs = .ok chosen ∧
        ∀ r ∈ chosen, Json.isStrict (Json.disclosed r) = true) ↔ Judgeable spec (.list rs) := by
      rw [exists_selectBy_iff]
      exact ⟨.list, fun h => by cases h with | list h => exact h⟩
    rw [← hselect]
    exact exists_congr fun chosen =>
      ⟨fun ⟨_, hchosen, _, hall⟩ => ⟨hchosen, hall⟩, fun ⟨hchosen, hall⟩ => ⟨_, hchosen, rfl, hall⟩⟩
  | _ => exact iff_of_false (by rintro ⟨_, _, _, hsize, _⟩; cases hsize) nofun

/-- **The reply to symbols that were fetched** is a list of them if they can be judged, and otherwise
the service fails. -/
theorem status_symbolsFound {f : SymbolsForm} (hsort : f.sort = none ∨ f.sort = some "")
    (spec : Spec) (records : Value) :
    Judgeable spec records ∧ (symbolsFound f spec records).status = 200 ∨
      ¬ Judgeable spec records ∧ (symbolsFound f spec records).status = 500 := by
  have hsorted : selectSorted spec f.sort f.direction records = select spec records := by
    rw [selectSorted]
    rcases hsort with h | h <;> rw [h] <;> cases select spec records <;> rfl
  rw [← exists_select_iff, symbolsFound, hsorted]
  cases hselect : select spec records with
  | error fault => exact .inr ⟨by rintro ⟨_, _, ⟨⟩, _⟩, rfl⟩
  | ok chosen =>
    cases hsize : records.size with
    | error fault => exact .inr ⟨by rintro ⟨_, _, _, ⟨⟩, _⟩, rfl⟩
    | ok total =>
      have hstrict := isStrict_result f.query total chosen.length chosen
      by_cases hall : ∀ r ∈ chosen, Json.isStrict (Json.disclosed r) = true
      · refine .inl ⟨⟨chosen, total, rfl, rfl, hall⟩, ?_⟩
        show (Reply.ofValue _).status = 200
        rw [Reply.ofValue, if_pos (hstrict.2 hall)]
        rfl
      · refine .inr ⟨by rintro ⟨_, _, ⟨⟩, _, h⟩; exact hall h, ?_⟩
        show (Reply.ofValue _).status = 500
        rw [Reply.ofValue, if_neg (mt hstrict.1 hall)]
        rfl

/-- The status of the reply to an answer of the backend. -/
def statusOf (f : SymbolsForm) (spec : Spec) : Except ClientFault Value → Nat
  | .ok answer => match Client.recordsOf answer with
    | .ok records => (symbolsFound f spec records).status
    | .error _ => 500
  | .error (.backend _) => 502
  | .error _ => 500

theorem status_listSymbols {c : Client} {f : SymbolsForm} {spec : Spec} {d d' : Desk}
    {answer : Except ClientFault Value} (hquery : Query.parse f.query = .ok spec)
    (hask : (c.ask (.list (some spec) .null)).run d = (answer, d')) :
    ((listSymbols c f).run d).1.status = statusOf f spec answer := by
  rw [Client.ask] at hask
  have hfetch : (c.fetchSymbols (some spec)).run d = (answer >>= Client.recordsOf, d') := by
    rw [Client.fetchSymbols, StateT.run_bind, hask]
    cases answer <;> rfl
  simp only [listSymbols, hquery, StateT.run_bind, hfetch]
  cases answer with
  | error fault => cases fault <;> rfl
  | ok v => cases v <;> rfl

/-- The symbols of an answer are listed if it is as it should be, and otherwise the service fails. -/
theorem statusOf_ok {f : SymbolsForm} (hsort : f.sort = none ∨ f.sort = some "") (spec : Spec)
    (answer : Value) : Listable spec answer ∧ statusOf f spec (.ok answer) = 200 ∨
      ¬ Listable spec answer ∧ statusOf f spec (.ok answer) = 500 := by
  cases answer with
  | map es =>
    rcases status_symbolsFound hsort spec (((Assoc.get? "items" es).getD .null).orElse (.list []))
      with ⟨hjudge, hstatus⟩ | ⟨hjudge, hstatus⟩
    · exact .inl ⟨⟨es, rfl, hjudge⟩, hstatus⟩
    · exact .inr ⟨by rintro ⟨_, ⟨⟩, h⟩; exact hjudge h, hstatus⟩
  | _ => exact .inr ⟨by rintro ⟨_, ⟨⟩, _⟩, rfl⟩

/-! ## Outcomes -/

/-- Outcomes of a request to an address with which the service can deal, with the status of its
reply: trouble that is reported as a bad gateway, and answers whose symbols are listed. -/
inductive Handled (address : Address) (spec : Spec) : Outcome → Nat → Prop
  | unreached {message : String} : Handled address spec (.unreached message) 502
  | broken {e : BackendError} : Handled address spec (.broken (.backend e)) 502
  | refused {a : Response} (hreachable : address.isReachable = true) (hstatus : 400 ≤ a.status) :
    Handled address spec (.answered a) 502
  | unread {a : Response} {fault : Json.Fault} (hreachable : address.isReachable = true)
    (hstatus : a.status < 400) (hbody : Json.decodeBytes a.body.toUTF8 = .error fault)
    (hfault : fault ≠ .tooDeep) : Handled address spec (.answered a) 502
  | listed {a : Response} {v : Value} (hreachable : address.isReachable = true)
    (hstatus : a.status < 400) (hbody : Json.decodeBytes a.body.toUTF8 = .ok v)
    (hv : Listable spec v) : Handled address spec (.answered a) 200

variable {c : Client} {f : SymbolsForm} {spec : Spec} {address : Address}

theorem Handled.status_eq {o : Outcome} {n : Nat} (h : Handled address spec o n) :
    n = 200 ∨ n = 502 := by
  cases h <;> simp

/-- A good response can be dealt with if its body is no value, other than for its depth, or one that
can be listed. -/
theorem handled_good_iff {a : Response} (hreachable : address.isReachable = true)
    (hstatus : a.status < 400) {n : Nat} : Handled address spec (.answered a) n ↔
      match Json.decodeBytes a.body.toUTF8 with
      | .ok v => n = 200 ∧ Listable spec v
      | .error fault => n = 502 ∧ fault ≠ .tooDeep := by
  constructor
  · rintro (_ | _ | ⟨_, hrefused⟩ | ⟨_, _, hbody, hfault⟩ | ⟨_, _, hbody, hv⟩)
    · exact absurd hstatus (Int.not_lt.2 hrefused)
    · rw [hbody]
      exact ⟨rfl, hfault⟩
    · rw [hbody]
      exact ⟨rfl, hv⟩
  · intro h
    split at h
    next v hbody =>
      obtain ⟨rfl, hv⟩ := h
      exact .listed hreachable hstatus hbody hv
    next fault hbody =>
      obtain ⟨rfl, hfault⟩ := h
      exact .unread hreachable hstatus hbody hfault

/-- A good response is dealt with according to what its body is read as. -/
theorem statusOf_decodeBody_iff (hsort : f.sort = none ∨ f.sort = some "") {a : Response}
    (hreachable : address.isReachable = true) (hstatus : a.status < 400) (path : String) {n : Nat}
    (hn : n ≠ 500) :
    statusOf f spec (Client.decodeBody path a) = n ↔ Handled address spec (.answered a) n := by
  rw [Client.decodeBody, handled_good_iff hreachable hstatus]
  cases Json.decodeBytes a.body.toUTF8 with
  | ok v =>
    rcases statusOf_ok hsort spec v with ⟨hv, hlisted⟩ | ⟨hv, hfailed⟩
    · simp only [hlisted, hv, and_true, eq_comm]
    · simp only [hfailed, hv, and_false, hn.symm]
  | error fault =>
    cases fault with
    | tooDeep => simpa [statusOf] using hn.symm
    | _ => simp [statusOf, eq_comm]

/-- **What the service replies** after an outcome with which it can deal. -/
theorem statusOf_valueOf_iff (hsort : f.sort = none ∨ f.sort = some "") (path : String)
    (o : Outcome) {n : Nat} (hn : n ≠ 500) :
    statusOf f spec (Client.valueOf path (c.resultOf address o)) = n ↔
      Handled address spec o n := by
  cases o with
  | unreached message => exact ⟨fun h => h ▸ .unreached, fun h => by cases h; rfl⟩
  | broken fault =>
    cases fault with
    | backend e => exact ⟨fun h => h ▸ .broken, fun h => by cases h; rfl⟩
    | _ => exact iff_of_false hn.symm nofun
  | answered a =>
    rw [Client.resultOf]
    cases hreachable : address.isReachable with
    | false =>
      refine iff_of_false hn.symm fun h => ?_
      cases h <;> simp_all
    | true =>
      rw [if_pos rfl, Client.valueOf]
      by_cases hstatus : 400 ≤ a.status
      · rw [if_pos hstatus]
        refine ⟨fun h => h ▸ .refused hreachable hstatus, fun h => ?_⟩
        cases h with
        | refused => rfl
        | unread _ hlt => exact absurd hlt (Int.not_lt.2 hstatus)
        | listed _ hlt => exact absurd hlt (Int.not_lt.2 hstatus)
      · rw [if_neg hstatus]
        exact statusOf_decodeBody_iff hsort hreachable (Int.not_le.1 hstatus) path hn

theorem holdsLong_of_field {es : Entries} {names : List String}
    (h : (Record.field (.map es) names).HoldsLong) : (Value.map es).HoldsLong := by
  rw [Record.field] at h
  cases hfound : (Value.map es).field? names with
  | none =>
    rw [hfound] at h
    cases h
  | some v =>
    rw [hfound] at h
    obtain ⟨name, -, hv⟩ := List.exists_of_findSome?_eq_some hfound
    exact .entry (Assoc.mem_of_get?_eq_some (Option.filter_eq_some_iff.1 hv).1) h

/-- **Records as they should be are no trouble**: an answer that was read can be listed if its items
are mappings whose names, paths and counts are as they should be and whose numbers are finite. -/
theorem listable_of_regular {query : String} {bytes : ByteArray} {es : Entries}
    {records : List Value} (hquery : Query.parse query = .ok spec)
    (hread : Json.decodeBytes bytes = .ok (.map es))
    (hitems : Assoc.get? "items" es = some (.list records))
    (hrecords : ∀ r ∈ records, (∃ fs, r = .map fs) ∧ Regular r ∧
      Json.isStrict (Json.disclosed r) = true) : Listable spec (.map es) := by
  obtain ⟨g, rfl⟩ := Filters.exists_spec_of_parse hquery
  have hshort := Json.not_holdsLong_of_decodeBytes hread
  have hjudged : ∀ r ∈ records, Judged g.spec r := by
    intro r hr
    obtain ⟨⟨fs, rfl⟩, hregular, hstrict⟩ := hrecords r hr
    have hkind : ¬ (Record.field (.map fs) ["kind", "type"]).HoldsLong := fun hlong =>
      hshort (.entry (Assoc.mem_of_get?_eq_some hitems) (.item hr (holdsLong_of_field hlong)))
    exact ⟨_, ((Filters.tested_iff hregular).2 (.inr hkind)).selects_eq, fun _ => hstrict⟩
  refine ⟨es, rfl, ?_⟩
  rw [hitems, Option.getD_some, Value.orElse]
  split
  next => exact .list hjudged
  next => exact .list (by simp)

/-! ## Queries for functions -/

/-- A service that asks the backend twice. -/
def patient : Service := { plain with client := Client.twice }

/-- The request for all functions. -/
def getFunctions : ServiceRequest where
  method := "GET"
  path := Endpoint.symbolsPath
  params := [("q", "kind:function")]

/-- The form of the request. -/
def functionsForm : SymbolsForm := ⟨"kind:function", none, "asc"⟩

/-- The specification of the request. -/
def functionsSpec : Spec := { kind := .text "function" }

/-- A desk on which the first request misses, and the second one is answered with a function. -/
def deskOnFunction : Desk := Client.deskAwaiting [.unreached "refused",
  .answered ⟨200, "\x7b\"items\": [\x7b\"name\": \"f\", \"kind\": \"Function\"\x7d]\x7d"⟩]

end Service

end SymbolSieve
