import SymbolSieve.Proofs.Engine.Nested

/-!
# Storage is not to be seen

A live session goes on as if it had no storage, whether its storage is healthy, holds junk or fails
now and then.  Filters, results, failures and what listeners receive are the same.

A text that is nested too deeply is the one exception.  Nobody can read or replace it, and every
change of filters fails where it is stored.

## What is here

* `detached`: a session without storage that looks the same.
* `observe`: what is seen of some mutations, one after the other.
* `storage_unseen_iff`: exactly when a session is observed like the one without storage.
-/

set_option autoImplicit false

namespace SymbolSieve.Session

open Document (TooDeep)

/-! ## Observations -/

/-- A session without storage that looks the same. -/
def detached (s : Session) : Session where
  engines := Assoc.mapSnd (fun e => { e with handle := none }) s.engines
  behaviors := s.behaviors
  subscriptions := s.subscriptions
  heard := s.heard

/-- Some mutations, one after the other.  Of each of them it is seen how it went, and what can be
seen of the session afterwards. -/
def observe (ms : List Mutation) : StateM Session (List (Except ValueFault Unit × Front)) :=
  ms.mapM fun m => do return (← m.run, (← get).front)

theorem front_detached (s : Session) : s.detached.front = s.front := by
  simp only [front, detached, Assoc.mapSnd, List.map_map]
  rfl

theorem calm_detached {s : Session} (hs : s.HasFlatFilters) : Calm s.detached where
  scripts := hs.scripts
  stored := Document.not_tooDeep_null
  specs e he := by
    obtain ⟨e', he', rfl⟩ := List.mem_map.1 he
    exact hs.specs e' he'

/-- **Calm sessions that look the same are observed to do the same.** -/
theorem alike_observe {ms : List Mutation} (hms : ∀ m ∈ ms, m.IsFlat) :
    Alike Calm front (observe ms) (observe ms) := by
  refine Alike.mapM fun m hm => (alike_mutation (hms m hm)).bind fun r => ?_
  refine Alike.get_bind fun s t _ _ heq => ?_
  rw [heq]
  exact .pure _

/-! ## A text that is nested too deeply -/

/-- A session without engines, on memory that holds something under the key of the document. -/
def holdingRaw (raw : Value) : Session where
  desk := { storage := .memory { items := [(Document.key, raw)] } }
  handle := some 0

theorem raw_holdingRaw (raw : Value) :
    Storage.raw Vocabulary.stateKey (holdingRaw raw).desk.storage = raw := by
  simp [holdingRaw, Storage.raw, Document.key, Assoc.get?, Value.beq_text_iff]

theorem hasFlatFilters_holdingRaw (raw : Value) : (holdingRaw raw).HasFlatFilters where
  specs _ he := absurd he List.not_mem_nil
  scripts _ hb := absurd hb List.not_mem_nil

theorem results_detached_holdingRaw (raw : Value) :
    (observe [.change (.text "main") .reset] (holdingRaw raw).detached).1.map Prod.fst =
      [.ok ()] := rfl

theorem lively_holdingRaw (raw : Value) : Lively 0 "main" (holdingRaw raw) where
  storage := ⟨fun _ => rfl, fun _ => rfl⟩
  handle := rfl
  spec := Spec.fieldwise_unconstrained fun f => scalar_of_admits f _ (Query.admits_default f)
  scripts _ hb := absurd hb List.not_mem_nil

theorem blocked_holdingRaw {raw : Value} (hdeep : TooDeep raw) :
    Document.Blocked (holdingRaw raw).desk.storage := (raw_holdingRaw raw).symm ▸ hdeep

/-- Where the stored text is nested too deeply, a change of filters fails. -/
theorem reset_holdingRaw {raw : Value} (hdeep : TooDeep raw) :
    (Session.change (.text "main") .reset (holdingRaw raw)).1 = .error .tooDeep := by
  obtain ⟨t, hrun, -⟩ := changeBy_of_blocked (changeWithin (holdingRaw raw).pending (.text "main"))
    (c := .reset) trivial (lively_holdingRaw raw) (blocked_holdingRaw hdeep) rfl
  rw [change_apply, hrun]

theorem results_holdingRaw {raw : Value} (hdeep : TooDeep raw) :
    (observe [.change (.text "main") .reset] (holdingRaw raw)).1.map Prod.fst =
      [.error .tooDeep] := by
  show [(Session.change (.text "main") .reset (holdingRaw raw)).1] = _
  rw [reset_holdingRaw hdeep]

/-- **A session is observed as if it had no storage**, whatever its storage holds and however it
fails, unless it holds a text that is nested too deeply.  Such a text is noticed. -/
theorem storage_unseen_iff (raw : Value) :
    (∀ s : Session, s.HasFlatFilters → Storage.raw Vocabulary.stateKey s.desk.storage = raw →
      ∀ ms : List Mutation, (∀ m ∈ ms, m.IsFlat) →
        (observe ms s).1 = (observe ms s.detached).1) ↔
    ¬ TooDeep raw := by
  constructor
  · intro hsame hdeep
    have hobserved := hsame (holdingRaw raw) (hasFlatFilters_holdingRaw raw) (raw_holdingRaw raw)
      [.change (.text "main") .reset] fun m hm => List.mem_singleton.1 hm ▸ trivial
    have hresults := congrArg (List.map Prod.fst) hobserved
    rw [results_holdingRaw hdeep, results_detached_holdingRaw] at hresults
    cases hresults
  · intro hdeep s hs hraw ms hms
    have hcalm : Calm s := { hs with stored := by rwa [Document.Blocked, hraw] }
    exact (alike_observe hms s s.detached hcalm (calm_detached hs) (front_detached s).symm).1

/-- A list of lists that is nested too deeply makes every reset of the filters fail. -/
theorem storage_seen_on_deepText :
    (holdingRaw (.text Document.deepText)).HasFlatFilters ∧
      Storage.raw Vocabulary.stateKey (holdingRaw (.text Document.deepText)).desk.storage =
        .text Document.deepText ∧
      (observe [.change (.text "main") .reset]
        (holdingRaw (.text Document.deepText))).1.map Prod.fst = [.error .tooDeep] ∧
      (observe [.change (.text "main") .reset]
        (holdingRaw (.text Document.deepText)).detached).1.map Prod.fst = [.ok ()] :=
  ⟨hasFlatFilters_holdingRaw _, raw_holdingRaw _, results_holdingRaw Document.tooDeep_deepText,
    results_detached_holdingRaw _⟩

end SymbolSieve.Session
