import SymbolSieve.Proofs.Backend.Answers

/-!
# Files that the backend does not know

The backend can be asked for the symbols of one file, and no answer at all is given for a file that
it does not know.  It says so by the status 404.  One would expect no answer there, an error
wherever else it refuses, and otherwise the value that the response spells.

But every response that is no success comes to no answer, so a backend that fails looks like one
that does not know the file.  A good response that spells null cannot be told from no answer either,
and one that is nested too deeply gives an error that is none of the backend's.

## What is here

* `lastResponse?`: the response that a question about a file gets in the end.
* `symbolsOf`: what is made of a response; `fetchFileSymbols_of_response`,
  `fetchFileSymbols_of_no_response`, that this is the answer.
* `Reliable`, `TellsUnknown`: no answer means that the file is unknown, and nothing else is kept
  quiet.
* `Told`, `tellsUnknown_iff`: exactly when that is so; `not_tellsUnknown_failing`, a backend that
  fails.
-/

set_option autoImplicit false

namespace SymbolSieve

/-- Whether a response is a success. -/
def Response.IsSuccess (r : Response) : Prop := 200 ≤ r.status ∧ r.status ≤ 299

namespace Client

/-! ## Questions about a file -/

/-- Where the backend has the symbols of a file. -/
def filePath (file : String) : String := "/api/file/" ++ Percent.encodeSegment file

/-- The response that a question about a file gets in the end, if it gets one, and the address that
it comes from. -/
def lastResponse? (c : Client) (file : String) (d : Desk) : Option (Address × Response) :=
  (c.put? (filePath file) none).bind fun p => match d.wire.decisive c.allowed with
    | .answered a => some (p.2, a)
    | _ => none

/-- What is made of the response to a question about a file. -/
def symbolsOf (file : String) : Except ClientFault Response → Except ClientFault (Option Value)
  | .error e => .error e
  | .ok r => if 200 ≤ r.status && r.status ≤ 299 then (decodeBody file r).map some else .ok none

variable {c : Client} {file : String} {d : Desk} {address : Address} {a : Response}

theorem run_fetchFileSymbols (c : Client) (file : String) (d : Desk) :
    ((c.fetchFileSymbols (.text file)).run d).1 =
      symbolsOf file ((c.send (filePath file) none).run d).1 := by
  rw [fetchFileSymbols, StateT.run_bind, ← filePath]
  generalize (c.send (filePath file) none).run d = sent
  obtain ⟨answer | r, d'⟩ := sent
  · rfl
  · show (StateT.run (ite _ _ _ : StateM Desk (Except ClientFault (Option Value))) d').1 =
      ite _ _ _
    split <;> rfl

/-- A question is answered by its last response. -/
theorem fetchFileSymbols_of_response (h : c.lastResponse? file d = some (address, a)) :
    ((c.fetchFileSymbols (.text file)).run d).1 =
      symbolsOf file (c.resultOf address (.answered a)) := by
  obtain ⟨⟨r, _⟩, hput, hanswered⟩ := Option.bind_eq_some_iff.1 h
  obtain ⟨log, hsend⟩ := send_of_put hput d
  split at hanswered
  next hdecisive =>
    cases hanswered
    rw [run_fetchFileSymbols, hsend, hdecisive]
  next => cases hanswered

/-- Without a response there is an error. -/
theorem fetchFileSymbols_of_no_response (h : c.lastResponse? file d = none) :
    ∃ fault, ((c.fetchFileSymbols (.text file)).run d).1 = .error fault := by
  rw [run_fetchFileSymbols]
  cases hput : c.put? (filePath file) none with
  | none =>
    obtain ⟨fault, log, -, hsend⟩ := send_of_not_put hput d
    exact ⟨fault, by rw [hsend, symbolsOf]⟩
  | some p =>
    obtain ⟨log, hsend⟩ := send_of_put hput d
    rw [lastResponse?, hput, Option.bind_some] at h
    rw [hsend]
    match hdecisive : d.wire.decisive c.allowed with
    | .answered a => simp [hdecisive] at h
    | .unreached message => exact ⟨_, rfl⟩
    | .broken fault => exact ⟨fault, rfl⟩

theorem symbolsOf_success (h : a.IsSuccess) :
    symbolsOf file (.ok a) = (decodeBody file a).map some := by
  rw [symbolsOf, if_pos (by simpa [Response.IsSuccess] using h)]

theorem symbolsOf_failure (h : ¬ a.IsSuccess) : symbolsOf file (.ok a) = .ok none := by
  rw [symbolsOf, if_neg (by simpa [Response.IsSuccess] using h)]

/-- The answer to a response from a usable address. -/
theorem symbolsOf_reachable (h : address.isReachable) :
    symbolsOf file (c.resultOf address (.answered a)) = symbolsOf file (.ok a) := by
  rw [resultOf, if_pos h]

theorem symbolsOf_unreachable (h : ¬ address.isReachable) :
    symbolsOf file (c.resultOf address (.answered a)) = .error (.value .malformed) := by
  rw [resultOf, if_neg h, symbolsOf]

/-! ## Answers that can be relied on -/

/-- An answer that says what a response says. -/
structure Reliable (a : Response) (answer : Except ClientFault (Option Value)) : Prop where
  /-- No answer means that the backend said that it does not know the file. -/
  unknown : ∀ symbols, answer = .ok symbols → symbols.getD .null = .null → a.status = 404
  /-- Any other refusal is an error that names the status. -/
  refused : 400 ≤ a.status → a.status ≠ 404 →
    ∃ e, answer = .error (.backend e) ∧ e.status? = some a.status
  /-- A success is answered with the value that it spells, or with an error of the backend. -/
  success : a.IsSuccess → (∃ v, answer = .ok (some v) ∧ Json.Spells a.body.toUTF8 v) ∨
    ∃ e, answer = .error (.backend e)

/-- A question about a file whose answer can be relied on: it says what the last response says, and
without a response it is an error. -/
structure TellsUnknown (c : Client) (file : String) (d : Desk) : Prop where
  answered : ∀ address a, c.lastResponse? file d = some (address, a) →
    Reliable a ((c.fetchFileSymbols (.text file)).run d).1
  unanswered : c.lastResponse? file d = none →
    ∃ fault, ((c.fetchFileSymbols (.text file)).run d).1 = .error fault

/-- A response that is answered as it should be: it says that the file is unknown; or it is a
success that spells something else than null and is not nested too deeply; or it is neither a
success nor a refusal, and its address makes it unusable. -/
inductive Told (address : Address) (a : Response) : Prop
  | unknown (hstatus : a.status = 404)
  | success (hsuccess : a.IsSuccess) (hreachable : address.isReachable)
    (hdepth : Json.decodeBytes a.body.toUTF8 ≠ .error .tooDeep)
    (hnull : Json.decodeBytes a.body.toUTF8 ≠ .ok .null)
  | neither (hstatus : a.status < 400) (hsuccess : ¬ a.IsSuccess)
    (hreachable : ¬ address.isReachable)

/-- No answer is right for an unknown file only. -/
theorem reliable_none_iff : Reliable a (.ok none) ↔ a.status = 404 := by
  refine ⟨fun h => h.unknown none rfl rfl, fun hstatus => ⟨fun _ _ _ => hstatus, ?_, ?_⟩⟩
  · exact fun _ hne => absurd hstatus hne
  · intro hsuccess
    have hle : a.status ≤ 299 := hsuccess.2
    omega

/-- An error that is none of the backend's is right for an unknown file, and for what is neither a
success nor a refusal. -/
theorem reliable_fault_iff {fault : ValueFault} :
    Reliable a (.error (.value fault)) ↔ a.status = 404 ∨ (a.status < 400 ∧ ¬ a.IsSuccess) := by
  constructor
  · intro h
    have hsuccess : ¬ a.IsSuccess := by
      intro hsuccess
      obtain ⟨v, hv, -⟩ | ⟨e, he⟩ := h.success hsuccess
      · cases hv
      · cases he
    by_cases hstatus : a.status = 404
    · exact .inl hstatus
    · refine .inr ⟨Int.not_le.1 fun hrefused => ?_, hsuccess⟩
      obtain ⟨e, he, -⟩ := h.refused hrefused hstatus
      cases he
  · intro h
    refine ⟨nofun, fun hrefused hne => ?_, fun hsuccess => ?_⟩
    · omega
    · have hle : a.status ≤ 299 := hsuccess.2
      rcases h with hstatus | ⟨-, hnot⟩
      · omega
      · exact absurd hsuccess hnot

/-- For a success, the value that it spells is right unless it is null. -/
theorem reliable_value_iff (hsuccess : a.IsSuccess) {v : Value}
    (hv : Json.decodeBytes a.body.toUTF8 = .ok v) : Reliable a (.ok (some v)) ↔ v ≠ .null := by
  have hle : a.status ≤ 299 := hsuccess.2
  constructor
  · rintro h rfl
    have hstatus : a.status = 404 := h.unknown _ rfl rfl
    omega
  · intro hnull
    refine ⟨fun symbols hsymbols hnone => ?_, fun hrefused _ => by omega, fun _ => ?_⟩
    · cases hsymbols
      exact absurd hnone hnull
    · exact .inl ⟨v, rfl, Json.Spells.of_ok hv⟩

/-- For a success, an error of the backend is right. -/
theorem reliable_of_isSuccess (hsuccess : a.IsSuccess) (e : BackendError) :
    Reliable a (.error (.backend e)) where
  unknown := nofun
  refused hrefused _ := by
    have hle : a.status ≤ 299 := hsuccess.2
    omega
  success _ := .inr ⟨e, rfl⟩

/-- What a success spells is right unless it is null or nested too deeply. -/
theorem reliable_decodeBody_iff (hsuccess : a.IsSuccess) :
    Reliable a ((decodeBody file a).map some) ↔
      Json.decodeBytes a.body.toUTF8 ≠ .error .tooDeep ∧
        Json.decodeBytes a.body.toUTF8 ≠ .ok .null := by
  rw [decodeBody]
  split
  next v hv =>
    refine (reliable_value_iff hsuccess hv).trans ?_
    rw [hv]
    simp
  next hdeep =>
    rw [hdeep]
    refine iff_of_false (fun h => ?_) fun h => h.1 rfl
    have hle : a.status ≤ 299 := hsuccess.2
    rcases reliable_fault_iff.1 h with hstatus | ⟨-, hnot⟩
    · omega
    · exact hnot hsuccess
  next fault hdepth hfault =>
    rw [hfault]
    exact iff_of_true (reliable_of_isSuccess hsuccess _)
      ⟨fun heq => hdepth (Except.error.inj heq), by simp⟩

theorem told_iff_of_isSuccess (hsuccess : a.IsSuccess) :
    Told address a ↔ address.isReachable ∧ Json.decodeBytes a.body.toUTF8 ≠ .error .tooDeep ∧
      Json.decodeBytes a.body.toUTF8 ≠ .ok .null := by
  refine ⟨?_, fun ⟨hreachable, hdepth, hnull⟩ => .success hsuccess hreachable hdepth hnull⟩
  rintro (hstatus | ⟨-, hreachable, hdepth, hnull⟩ | ⟨-, hnot, -⟩)
  · have hle : a.status ≤ 299 := hsuccess.2
    omega
  · exact ⟨hreachable, hdepth, hnull⟩
  · exact absurd hsuccess hnot

theorem told_iff_of_not_isSuccess (hsuccess : ¬ a.IsSuccess) :
    Told address a ↔ a.status = 404 ∨ (a.status < 400 ∧ ¬ address.isReachable) := by
  constructor
  · rintro (hstatus | ⟨hyes, -, -, -⟩ | ⟨hstatus, -, hreachable⟩)
    · exact .inl hstatus
    · exact absurd hyes hsuccess
    · exact .inr ⟨hstatus, hreachable⟩
  · rintro (hstatus | ⟨hstatus, hreachable⟩)
    · exact .unknown hstatus
    · exact .neither hstatus hsuccess hreachable

/-- **The answer to a response can be relied on** exactly if the response is one of those that are
answered as they should be. -/
theorem reliable_iff :
    Reliable a (symbolsOf file (c.resultOf address (.answered a))) ↔ Told address a := by
  by_cases hsuccess : a.IsSuccess
  · have hle : a.status ≤ 299 := hsuccess.2
    rw [told_iff_of_isSuccess hsuccess]
    by_cases hreachable : address.isReachable
    · rw [symbolsOf_reachable hreachable, symbolsOf_success hsuccess,
        reliable_decodeBody_iff hsuccess, and_iff_right hreachable]
    · rw [symbolsOf_unreachable hreachable, reliable_fault_iff]
      refine iff_of_false ?_ fun h => hreachable h.1
      rintro (hstatus | ⟨-, hnot⟩)
      · omega
      · exact hnot hsuccess
  · rw [told_iff_of_not_isSuccess hsuccess]
    by_cases hreachable : address.isReachable
    · rw [symbolsOf_reachable hreachable, symbolsOf_failure hsuccess, reliable_none_iff]
      simp [hreachable]
    · rw [symbolsOf_unreachable hreachable, reliable_fault_iff]
      simp [hsuccess, hreachable]

/-- **An answer can be relied on** exactly if the last response, if there is one, is answered as it
should be. -/
theorem tellsUnknown_iff (c : Client) (file : String) (d : Desk) :
    TellsUnknown c file d ↔
      ∀ address a, c.lastResponse? file d = some (address, a) → Told address a := by
  have hanswer : ∀ address a, c.lastResponse? file d = some (address, a) →
      (Reliable a ((c.fetchFileSymbols (.text file)).run d).1 ↔ Told address a) := by
    intro address a h
    rw [fetchFileSymbols_of_response h, reliable_iff]
  constructor
  · intro htells address a h
    exact (hanswer address a h).1 (htells.answered address a h)
  · intro htold
    exact ⟨fun address a h => (hanswer address a h).2 (htold address a h),
      fetchFileSymbols_of_no_response⟩

/-! ## Files of the usual backend -/

/-- Where the outcome that counts is a response, it comes from an address that says how it is
reached. -/
theorem lastResponse?_twice (hdecisive : d.wire.decisive twice.allowed = .answered a) :
    ∃ address, twice.lastResponse? "src/main.go" d = some (address, a) ∧ address.isReachable := by
  have hput : (twice.put? (filePath "src/main.go") none).any (fun p => p.2.isReachable) = true := by
    decide +kernel
  obtain ⟨⟨r, address⟩, hsome, hreachable⟩ := (Option.any_eq_true _ _).1 hput
  refine ⟨address, Option.bind_eq_some_iff.2 ⟨_, hsome, ?_⟩, hreachable⟩
  rw [hdecisive]

/-- After a miss, the backend says that it does not know the file. -/
theorem tellsUnknown_iff_missing :
    TellsUnknown twice "src/main.go"
      (deskAwaiting [.unreached "refused", .answered ⟨404, "no such file"⟩]) := by
  obtain ⟨_, hlast, -⟩ := lastResponse?_twice
    (d := deskAwaiting [.unreached "refused", .answered ⟨404, "no such file"⟩]) rfl
  refine (tellsUnknown_iff twice "src/main.go" _).2 fun address a h => ?_
  cases hlast.symm.trans h
  exact .unknown rfl

/-- **A backend that fails** looks as if it did not know the file. -/
theorem not_tellsUnknown_failing :
    ((twice.fetchFileSymbols (.text "src/main.go")).run
        (deskAwaiting [.answered ⟨500, "boom"⟩])).1 = .ok none ∧
      ¬ TellsUnknown twice "src/main.go" (deskAwaiting [.answered ⟨500, "boom"⟩]) := by
  obtain ⟨address, hlast, hreachable⟩ := lastResponse?_twice
    (d := deskAwaiting [.answered ⟨500, "boom"⟩]) rfl
  have hanswer : ((twice.fetchFileSymbols (.text "src/main.go")).run
      (deskAwaiting [.answered ⟨500, "boom"⟩])).1 = .ok none :=
    (fetchFileSymbols_of_response hlast).trans (symbolsOf_reachable hreachable)
  refine ⟨hanswer, fun htells => ?_⟩
  have hreliable := htells.answered address _ hlast
  rw [hanswer] at hreliable
  exact absurd (reliable_none_iff.1 hreliable) (by decide)

end Client

end SymbolSieve
