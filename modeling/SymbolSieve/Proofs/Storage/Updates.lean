import SymbolSieve.Proofs.Json.Unlimited
import SymbolSieve.Proofs.Storage.Documents
import SymbolSieve.Proofs.Storage.Faulty

/-!
# Updating the document while the storage fails

An update reads the document and stores it again.  If the write fails, the document stays.  If it
could be read, its other entries are stored again as they were, and only filters that lack a default
get it.  What was stored is lost if it could not be read and the write succeeds.

## What is here

* `run_load`, `run_update_of_ok`: loading and updating as accesses to the storage.
* `raw_after_update`: what is stored after an update, whatever fails.
* `HoldsObject`: what is stored is the text of a mapping; `Keeps`: the entries of one mapping are
  kept in another one.
* `Overwrites`: the storage is about to lose what it holds; `keeps_after_update` says that an update
  keeps the other entries in every other case.
* `Updates`: storage that went through several updates; `Updates.keeps`.
-/

set_option autoImplicit false

namespace SymbolSieve.Document

open Json Desk

/-! ## Accesses -/

/-- The document for what was read; the default one takes the place of what could not be read. -/
def documentOf : Except AccessFault Value → Except ValueFault Entries
  | .error (.value fault) => .error fault
  | .error (.storage _) => .ok default
  | .ok saved => .ok (ofStored saved).1

theorem read_eq_documentOf (raw : Value) : read raw = documentOf (Storage.ofRaw key raw) := by
  rw [read]
  rcases Storage.ofRaw key raw with (e | fault) | saved <;> rfl

/-- Loading reads what is stored, and makes a document of it. -/
theorem run_load (h : Handle) (d : Desk) : ∃ log, (load h).run d =
    (documentOf (onStorage (Storage.getJson h key) d).1,
      { (onStorage (Storage.getJson h key) d).2 with log }) := by
  rw [load]
  generalize hget : onStorage (Storage.getJson h key) d = r
  obtain ⟨r, d'⟩ := r
  rw [run_lift_bind hget]
  match r with
  | .error (.value fault) => exact ⟨d'.log, rfl⟩
  | .error (.storage e) => exact ⟨_, rfl⟩
  | .ok saved =>
    dsimp only [documentOf]
    generalize ofStored saved = stored
    obtain ⟨doc, _ | version⟩ := stored
    · exact ⟨d'.log, rfl⟩
    · exact ⟨_, rfl⟩

theorem setJson_eq (h : Handle) (key : String) (v : Value) (s : Storage) :
    Storage.setJson h (.text key) v s = match Storage.written key v with
      | .ok t => Storage.setItem h (.text key) (.text t) s
      | .error e => (.error e, s) := by
  unfold Storage.setJson Storage.written
  cases Json.encode v with
  | ok t => rfl
  | error o => cases o <;> rfl

section

variable {h : Handle} {d d' : Desk}

theorem run_adapt_load {r : Except ValueFault Entries} (hload : (load h).run d = (r, d')) :
    ((load h).adapt AccessFault.value).run d = (r.mapError AccessFault.value, d') := by
  show (Except.mapError _ ((load h).run d).1, ((load h).run d).2) = _
  rw [hload]

/-- An update ends where the document cannot be loaded. -/
theorem run_update_of_error {fault : ValueFault} (hload : (load h).run d = (.error fault, d'))
    (path : String) (value : Value) :
    (update h path value).run d = (.error (.value fault), d') :=
  run_bind_error (run_adapt_load hload)

/-- An update stores the document that was loaded, with a value at a path. -/
theorem run_update_of_ok {doc : Entries} (hload : (load h).run d = (.ok doc, d')) {path : String}
    {value : Value} {r : Except AccessFault Unit} {s : Storage}
    (hset : Storage.setJson h key (.map (putAt value (keysOf path) doc)) d'.storage = (r, s)) :
    (update h path value).run d =
      (r.map fun _ => putAt value (keysOf path) doc, { d' with storage := s }) := by
  have hstore : (ExceptT.mk (onStorage (Storage.setJson h key
      (.map (putAt value (keysOf path) doc))))).run d' = (r, { d' with storage := s }) := by
    change onStorage (Storage.setJson h key (.map (putAt value (keysOf path) doc))) d' = _
    rw [onStorage, hset]
  rw [update, run_bind_ok (run_adapt_load hload)]
  cases r with
  | error e => exact run_bind_error hstore
  | ok _ => exact run_bind_ok hstore

end

/-! ## What is stored after an update -/

variable {h : Handle} {d : Desk} {t : String}

theorem load_faulty (h : Handle) (hraw : Storage.raw Vocabulary.stateKey d.storage = .text t) :
    ∃ s log, (load h).run d =
        (if d.storage.failsRead then .ok default else read (.text t),
          { d with storage := s, log }) ∧
      Storage.raw Vocabulary.stateKey s = .text t ∧ s.failsWrite = d.storage.failsWrite := by
  obtain ⟨e, s, hget, hraw', hwrite⟩ := Storage.getJson_faulty (h := h) hraw
  obtain ⟨log, hrun⟩ := run_load h d
  refine ⟨s, log, ?_, hraw', hwrite⟩
  rw [hrun, read_eq_documentOf]
  simp only [onStorage, key, hget]
  cases d.storage.failsRead <;> rfl

/-- **What is stored after an update**, whatever fails: the update is made on the default document
if the read fails, and the text stays if there is nothing to write or the write fails. -/
theorem raw_after_update (hraw : Storage.raw Vocabulary.stateKey d.storage = .text t)
    (path : String) (value : Value) :
    Storage.raw Vocabulary.stateKey ((update h path value).run d).2.storage =
      match (if d.storage.failsRead then .ok default else read (.text t)) with
      | .error _ => .text t
      | .ok doc =>
        match Storage.written Vocabulary.stateKey (.map (putAt value (keysOf path) doc)) with
        | .error _ => .text t
        | .ok t' => .text (if d.storage.failsWrite then t else t') := by
  obtain ⟨s, log, hload, hkept, hwrite⟩ := load_faulty h hraw
  rw [← hwrite]
  generalize (if d.storage.failsRead then .ok default else read (.text t)) = r at hload ⊢
  cases r with
  | error fault =>
    rw [run_update_of_error hload]
    exact hkept
  | ok doc =>
    dsimp only
    have hset := setJson_eq h Vocabulary.stateKey (.map (putAt value (keysOf path) doc)) s
    cases hwritten : Storage.written Vocabulary.stateKey
        (.map (putAt value (keysOf path) doc)) with
    | error e =>
      rw [hwritten] at hset
      rw [run_update_of_ok hload hset]
      exact hkept
    | ok t' =>
      obtain ⟨e, s', hput, hraw'⟩ := Storage.setItem_faulty (h := h) hkept t'
      rw [hwritten] at hset
      rw [run_update_of_ok hload (hset.trans hput)]
      exact hraw'

/-- An update whose write fails leaves the text as it is. -/
theorem raw_after_update_of_failsWrite
    (hraw : Storage.raw Vocabulary.stateKey d.storage = .text t)
    (hwrite : d.storage.failsWrite = true) (path : String) (value : Value) :
    Storage.raw Vocabulary.stateKey ((update h path value).run d).2.storage = .text t := by
  rw [raw_after_update hraw, hwrite]
  split
  · rfl
  · split <;> rfl

/-! ## Entries that are kept -/

/-- What is stored is the text of a mapping, whether it can be read within limits or not. -/
def HoldsObject (raw : Value) (es : Entries) : Prop :=
  ∃ t, raw = .text t ∧ decodeWith {} t = .ok (.map es)

/-- Filters with a default for every field that they lack, and otherwise as they were. -/
def Completes (fs fs' : Entries) : Prop :=
  ∀ f, Assoc.get? f fs' = (Assoc.get? f fs).or (Assoc.get? f Spec.unconstrained.durableEntries)

/-- The entries of a mapping are kept in another one, except for the version and the entry under one
key.  Filters may have been completed. -/
def Keeps (key : Option String) (es es' : Entries) : Prop :=
  ∀ k v, k ≠ "version" → key ≠ some k → Assoc.get? k es = some v →
    Assoc.get? k es' = some v ∨
      k = "filters" ∧ ∃ fs fs', v = .map fs ∧ Assoc.get? k es' = some (.map fs') ∧ Completes fs fs'

theorem Keeps.refl (key : Option String) (es : Entries) : Keeps key es es :=
  fun _ _ _ _ h => .inl h

theorem Keeps.trans {key : Option String} {es es' es'' : Entries} (h : Keeps key es es')
    (h' : Keeps key es' es'') : Keeps key es es'' := by
  intro k v hversion hkey hget
  rcases h k v hversion hkey hget with hget' | ⟨rfl, fs, fs', rfl, hget', hcompletes⟩
  · exact h' k v hversion hkey hget'
  · refine .inr ⟨rfl, fs, ?_⟩
    rcases h' _ _ hversion hkey hget' with hget'' | ⟨-, _, fs'', heq, hget'', hcompletes'⟩
    · exact ⟨fs', rfl, hget'', hcompletes⟩
    · cases heq
      refine ⟨fs'', rfl, hget'', fun f => ?_⟩
      rw [hcompletes' f, hcompletes f, Option.or_assoc, Option.or_self]

/-- The defaults are no mappings, so whatever is laid over one of them replaces it. -/
theorem overlayValue_durable (f : String) (x : Value) :
    overlayValue (Assoc.get? f Spec.unconstrained.durableEntries) x = x := by
  have htext : ∀ w, Assoc.get? f Spec.unconstrained.durableEntries = some w →
      ∃ t, w = .text t := by
    intro w hw
    obtain ⟨g, hg, heq⟩ := List.mem_map.1 (Assoc.mem_of_get?_eq_some hw)
    obtain ⟨-, rfl⟩ := Prod.mk.inj heq
    rcases (by simpa [Field.durable] using hg : g = _ ∨ g = _ ∨ g = _ ∨ g = _) with
      rfl | rfl | rfl | rfl <;> exact ⟨_, rfl⟩
  cases x with
  | map entries =>
    rw [overlayValue]
    intro base hbase
    obtain ⟨t, ht⟩ := htext _ hbase
    cases ht
  | _ => simp [overlayValue]

/-- **A restored document keeps the entries** that it is made from. -/
theorem keeps_restore {es : Entries} (hsound : Sound es) : Keeps none es (restore es) := by
  intro k v hversion _ hget
  obtain ⟨hnodup, hinner⟩ := sound_iff.1 hsound
  by_cases hk : k = "filters"
  · subst hk
    have hdefault : Assoc.get? "filters" default = some (.map Spec.unconstrained.durableEntries) :=
      rfl
    rw [restore, Assoc.get?_put_of_ne _ _ hversion, get?_overlay _ hnodup, hget, hdefault]
    cases v with
    | map fs =>
      refine .inr ⟨rfl, fs, _, rfl, by simp only [overlayValue]; rfl, fun f => ?_⟩
      have hfilters : Faithful (958 + 1) (.map fs) := hinner _ (Assoc.mem_of_get?_eq_some hget)
      rw [get?_overlay _ (faithful_map_iff.1 hfilters).1]
      cases Assoc.get? f fs with
      | none => rfl
      | some x => exact congrArg some (overlayValue_durable f x)
    | _ => exact .inl (by simp [overlayValue])
  · rw [get?_restore_of_ne hversion hk hnodup]
    exact .inl hget

/-- A document with a value at a path, as it is read again, keeps the other entries. -/
theorem keeps_putAt {doc : Entries} (hsound : Sound doc) (value : Value) (path : List String) :
    Keeps path.head? doc (rereadEntries (putAt value path doc)) := by
  intro k v _ hkey hget
  have hplain : Plain v := ((sound_iff.1 hsound).2 _ (Assoc.mem_of_get?_eq_some hget)).1
  rw [get?_rereadEntries, get?_putAt_of_ne value doc hkey, hget]
  exact .inl (congrArg some (reread_of_plain v hplain))

theorem Keeps.mono {key : Option String} {es es' : Entries} (h : Keeps none es es') :
    Keeps key es es' :=
  fun k v hversion _ hget => h k v hversion nofun hget

/-! ## Updates -/

/-- A text that can be read only without limits, since it has an integer of too many digits. -/
def Unreadable (raw : Value) : Prop := ∃ t, raw = .text t ∧ decode t = .error .longInteger

/-- The next update does not see the document, and its write succeeds. -/
def Overwrites (s : Storage) : Prop :=
  (s.failsRead = true ∨ Unreadable (Storage.raw Vocabulary.stateKey s)) ∧ s.failsWrite = false

/-- **An update keeps the other entries** of the document, unless it does not see them and its write
succeeds. -/
theorem keeps_after_update {es : Entries}
    (hes : HoldsObject (Storage.raw Vocabulary.stateKey d.storage) es)
    (hfaults : ¬ Overwrites d.storage) (path : String) (value : Value) :
    ∃ es', HoldsObject (Storage.raw Vocabulary.stateKey
        ((update h path value).run d).2.storage) es' ∧ Keeps (keysOf path).head? es es' := by
  obtain ⟨t, hraw, hobject⟩ := hes
  have huntouched : Storage.raw Vocabulary.stateKey ((update h path value).run d).2.storage =
      .text t → ∃ es', HoldsObject (Storage.raw Vocabulary.stateKey
        ((update h path value).run d).2.storage) es' ∧ Keeps (keysOf path).head? es es' :=
    fun hafter => ⟨es, ⟨t, hafter, hobject⟩, .refl _ _⟩
  cases hwrite : d.storage.failsWrite with
  | true => exact huntouched (raw_after_update_of_failsWrite hraw hwrite path value)
  | false =>
    have hreads : d.storage.failsRead = false := by
      cases hread : d.storage.failsRead with
      | false => rfl
      | true => exact absurd ⟨.inl hread, hwrite⟩ hfaults
    have hafter := raw_after_update (h := h) hraw path value
    rw [hreads, hwrite] at hafter
    rcases decode_upToLimits t with hdecode | hdecode | hdecode
    · rw [hobject] at hdecode
      have hsound : Sound es := faithful_of_decode hdecode
      have hread : read (.text t) = .ok (restore es) := by
        rw [read_eq_documentOf, Storage.ofRaw, hdecode]
        rfl
      simp only [Bool.false_eq_true, if_false, hread] at hafter
      split at hafter
      next => exact huntouched hafter
      next t' hwritten =>
        have hnodup := nodup_keys_putAt value (keysOf path) (sound_iff.1 (sound_restore hsound)).1
        exact ⟨_, ⟨t', hafter, decodeWith_of_decode (decode_written hnodup hwritten)⟩,
          (keeps_restore hsound).mono.trans (keeps_putAt (sound_restore hsound) value _)⟩
    · exact absurd ⟨.inr ⟨t, hraw, hdecode⟩, hwrite⟩ hfaults
    · have hread : read (.text t) = .error .tooDeep :=
        (read_eq_error_iff _ _).2 ⟨⟨t, rfl, hdecode⟩, rfl⟩
      simp only [Bool.false_eq_true, if_false, hread] at hafter
      exact huntouched hafter

/-- An update whose write succeeds stores the document that was loaded, with a value at a path. -/
theorem holdsObject_after_update {doc : Entries} {path : String} {value : Value}
    (hraw : Storage.raw Vocabulary.stateKey d.storage = .text t)
    (hload : (if d.storage.failsRead then .ok default else read (.text t)) = .ok doc)
    (hwrite : d.storage.failsWrite = false) (hsound : Sound (putAt value (keysOf path) doc)) :
    HoldsObject (Storage.raw Vocabulary.stateKey ((update h path value).run d).2.storage)
      (putAt value (keysOf path) doc) := by
  obtain ⟨t', hwritten⟩ := exists_written hsound Vocabulary.stateKey
  have hafter := raw_after_update (h := h) hraw path value
  rw [hload, hwrite] at hafter
  simp only [hwritten, Bool.false_eq_true, if_false] at hafter
  refine ⟨t', hafter, decodeWith_of_decode ?_⟩
  rw [decode_written (sound_iff.1 hsound).1 hwritten, rereadEntries_of_plain _ hsound.1.2]

/-- Storage that goes through updates of the document at a path, with what it was before each of
them. -/
inductive Updates (path : String) : Storage → List Storage → Storage → Prop where
  | refl (s : Storage) : Updates path s [] s
  | step {h : Handle} {value : Value} {d : Desk} {ss : List Storage} {s' : Storage}
      (hrest : Updates path ((update h path value).run d).2.storage ss s') :
      Updates path d.storage (d.storage :: ss) s'

theorem Updates.trans {path : String} {s s' s'' : Storage} {ss ss' : List Storage}
    (h : Updates path s ss s') (h' : Updates path s' ss' s'') :
    Updates path s (ss ++ ss') s'' := by
  induction h with
  | refl s => exact h'
  | step _ ih => exact .step (ih h')

/-- **Updates keep the other entries** of the document, as long as each of them does. -/
theorem Updates.keeps {path : String} {s s' : Storage} {ss : List Storage}
    (h : Updates path s ss s') (hfaults : ∀ x ∈ ss, ¬ Overwrites x) {es : Entries}
    (hes : HoldsObject (Storage.raw Vocabulary.stateKey s) es) :
    ∃ es', HoldsObject (Storage.raw Vocabulary.stateKey s') es' ∧
      Keeps (keysOf path).head? es es' := by
  induction h generalizing es with
  | refl s => exact ⟨es, hes, .refl _ _⟩
  | @step h value d ss s' _ ih =>
    obtain ⟨es', hes', hkeeps⟩ := keeps_after_update (h := h) hes (hfaults _ List.mem_cons_self)
      path value
    obtain ⟨es'', hes'', hkeeps'⟩ := ih (fun x hx => hfaults x (List.mem_cons_of_mem _ hx)) hes'
    exact ⟨es'', hes'', hkeeps.trans hkeeps'⟩

end SymbolSieve.Document
