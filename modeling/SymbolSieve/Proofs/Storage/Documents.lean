import SymbolSieve.Proofs.Document
import SymbolSieve.Proofs.Simulation
import SymbolSieve.Proofs.Storage.Healthy
import SymbolSieve.Storage.Document

/-!
# The state document on healthy storage

On healthy storage the state document is a function of the raw value under its key.  Every raw value
stands for a document, except for a text that is nested too deeply; that one is beyond reading, and
it stays, because the document is read before it is written.

## What is here

* `Desk.View`: what matters of a desk, and `Desk.Good`: the desks on healthy storage.
* `Document.read`: the document for a raw value; `read_eq_error_iff` says when there is none.
* `simulates_load`, `simulates_update`: reading and writing the document, seen from outside.
* `read_written`: what a document that was written is read as.
-/

set_option autoImplicit false

namespace SymbolSieve

/-! ## What matters of a desk -/

/-- What matters of a desk: what is stored under each key, the clock, and the number of ids that
were drawn. -/
structure Desk.View where
  contents : String → Value
  clock : Except ValueFault Int
  drawn : Nat

namespace Desk

/-- What matters of a desk. -/
def view (d : Desk) : View where
  contents := fun key => Storage.raw key d.storage
  clock := d.clock
  drawn := d.drawn

/-- A desk on healthy storage. -/
def Good (h : Handle) (d : Desk) : Prop := Storage.Healthy h d.storage

/-- A text stored under a key. -/
def View.put (key t : String) (v : View) : View :=
  { v with contents := fun k => if k = key then .text t else v.contents k }

@[simp] theorem View.contents_put_self (key t : String) (v : View) :
    (v.put key t).contents key = .text t := if_pos rfl

theorem View.contents_put_of_ne {key other : String} (t : String) (v : View) (h : other ≠ key) :
    (v.put key t).contents other = v.contents other := if_neg h

/-- What comes of an access whose trouble with the storage is only reported. -/
def reported {α : Type} : Except AccessFault α → Except ValueFault Unit
  | .error (.value fault) => .error fault
  | _ => .ok ()

variable {h : Handle}

theorem simulates_report (level : LogLevel) (source message : String) :
    Simulates (Good h) view (report level source message) fun v => ((), v) :=
  .of_view_eq fun _ hd => ⟨hd, rfl⟩

/-- Reading a value under a key. -/
theorem simulates_getJson (key : String) :
    Simulates (Good h) view (onStorage (Storage.getJson h (.text key)))
      fun v => (Storage.ofRaw (.text key) (v.contents key), v) := by
  intro d hd
  obtain ⟨s', hget, hs', hraw⟩ := Storage.getJson_healthy hd key
  simp only [onStorage, hget, view, hraw]
  exact ⟨hs', trivial⟩

/-- Writing a text under a key. -/
theorem simulates_setItem (key t : String) :
    Simulates (Good h) view (onStorage (Storage.setItem h (.text key) (.text t)))
      fun v => (.ok (), v.put key t) := by
  intro d hd
  obtain ⟨s', hset, hs', hraw⟩ := Storage.setItem_healthy hd key t
  simp only [onStorage, hset, view, hraw]
  exact ⟨hs', rfl⟩

/-- Writing a value under a key. -/
theorem simulates_setJson (key : String) (w : Value) :
    Simulates (Good h) view (onStorage (Storage.setJson h (.text key) w))
      fun v => match Storage.written key w with
        | .ok t => (.ok (), v.put key t)
        | .error e => (.error e, v) := by
  unfold Storage.setJson Storage.written
  cases Json.encode w with
  | ok t => exact simulates_setItem key t
  | error o => cases o <;> exact fun d hd => ⟨hd, rfl⟩

end Desk

/-! ## Reading and writing -/

namespace Document

open Json Desk

/-- The document for a raw value. -/
def read (raw : Value) : Except ValueFault Entries :=
  match Storage.ofRaw key raw with
  | .error (.value fault) => .error fault
  | .error (.storage _) => .ok default
  | .ok saved => .ok (ofStored saved).1

/-- A text that is nested too deeply. -/
def TooDeep (raw : Value) : Prop := ∃ t, raw = .text t ∧ decode t = .error .tooDeep

theorem not_tooDeep_null : ¬ TooDeep .null := by
  rintro ⟨t, ht, -⟩
  cases ht

theorem ofRaw_eq_value_error_iff (key : String) (raw : Value) (fault : ValueFault) :
    Storage.ofRaw (.text key) raw = .error (.value fault) ↔ TooDeep raw ∧ fault = .tooDeep := by
  constructor
  · intro h
    unfold Storage.ofRaw at h
    split at h
    next => cases h
    next t =>
      split at h
      next => cases h
      next hdecode =>
        cases h
        exact ⟨⟨t, rfl, hdecode⟩, rfl⟩
      next => cases h
    next => cases h
  · rintro ⟨⟨t, rfl, hdecode⟩, rfl⟩
    simp only [Storage.ofRaw, hdecode]

/-- **Every raw value stands for a document**, unless it is nested too deeply. -/
theorem read_eq_error_iff (raw : Value) (fault : ValueFault) :
    read raw = .error fault ↔ TooDeep raw ∧ fault = .tooDeep := by
  rw [← ofRaw_eq_value_error_iff Vocabulary.stateKey, read, key]
  split <;> simp_all

/-- A text that is nested too deeply. -/
def deepText : String := String.ofList (List.replicate 1500 '[' ++ List.replicate 1500 ']')

theorem tooDeep_deepText : TooDeep (.text deepText) := ⟨_, rfl, decode_nested (by decide) _⟩

theorem exists_read (raw : Value) (h : ¬ TooDeep raw) : ∃ doc, read raw = .ok doc := by
  cases hread : read raw with
  | ok doc => exact ⟨doc, rfl⟩
  | error fault => exact absurd ((read_eq_error_iff raw fault).1 hread).1 h

variable {h : Handle}

/-- **Loading the document** is reading the raw value under its key. -/
theorem simulates_load : Simulates (Good h) view (load h).run
    fun v => (read (v.contents Vocabulary.stateKey), v) := by
  refine (Simulates.bindLift (simulates_getJson Vocabulary.stateKey) (g := fun r v =>
    (match r with
      | .error (.value fault) => .error fault
      | .error (.storage _) => .ok default
      | .ok saved => .ok (ofStored saved).1, v)) fun r => ?_).congr fun v => ?_
  · match r with
    | .error (.value fault) => exact .pure _
    | .error (.storage e) => exact .bindLift (simulates_report _ _ _) fun _ => .pure _
    | .ok saved =>
      dsimp only
      generalize ofStored saved = stored
      obtain ⟨doc, _ | version⟩ := stored
      · exact .pure _
      · exact .bindLift (simulates_report _ _ _) fun _ => .pure _
  · rw [read, key]

/-- What an update of the document makes of a view: the document is read, and stored again with a
value at a path. -/
def updateView (path : String) (value : Value) (v : View) : Except AccessFault Entries × View :=
  match read (v.contents Vocabulary.stateKey) with
  | .error fault => (.error (.value fault), v)
  | .ok doc =>
    match Storage.written Vocabulary.stateKey (.map (putAt value (keysOf path) doc)) with
    | .ok t => (.ok (putAt value (keysOf path) doc), v.put Vocabulary.stateKey t)
    | .error e => (.error e, v)

theorem simulates_update (path : String) (value : Value) :
    Simulates (Good h) view (update h path value).run (updateView path value) := by
  rw [update]
  refine (Simulates.bindExcept (simulates_load.adapt AccessFault.value) fun saved =>
    Simulates.bindExcept (simulates_setJson Vocabulary.stateKey _) fun _ => .pure _).congr
      fun v => ?_
  rw [updateView]
  cases read (v.contents Vocabulary.stateKey) with
  | error fault => rfl
  | ok doc =>
    dsimp only [Except.mapError]
    cases Storage.written Vocabulary.stateKey (.map (putAt value (keysOf path) doc)) <;> rfl

/-! ## What was written -/

/-- A document that was read is sound, and of the current version. -/
theorem sound_of_read {raw : Value} {doc : Entries} (h : read raw = .ok doc) :
    Sound doc ∧ Assoc.get? "version" doc = some (.int Vocabulary.stateVersion) := by
  rw [read] at h
  split at h
  next => cases h
  next =>
    cases h
    exact ⟨sound_default, rfl⟩
  next saved hraw =>
    cases h
    unfold ofStored
    split
    next entries =>
      have hsound : Sound entries := by
        unfold Storage.ofRaw at hraw
        split at hraw
        next => cases hraw
        next t =>
          split at hraw
          next hdecode =>
            cases hraw
            exact faithful_of_decode hdecode
          next => cases hraw
          next => cases hraw
        next => cases hraw
      exact ⟨sound_restore hsound, get?_restore_version entries⟩
    next => exact ⟨sound_default, rfl⟩

/-- A sound document can be written. -/
theorem exists_written {doc : Entries} (h : Sound doc) (key : String) :
    ∃ t, Storage.written key (.map doc) = .ok t := by
  refine ⟨String.ofList (text (.map doc)), ?_⟩
  rw [Storage.written, encode, h.2]

theorem get?_rereadEntries (key : String) (es : Entries) :
    Assoc.get? key (rereadEntries es) = (Assoc.get? key es).map reread := by
  induction es with
  | nil => rfl
  | cons e es ih =>
    obtain ⟨k, v⟩ := e
    by_cases hk : k = key <;> simp [rereadEntries, Assoc.get?, hk, ih]

theorem keys_rereadEntries (es : Entries) : Assoc.keys (rereadEntries es) = Assoc.keys es := by
  induction es with
  | nil => rfl
  | cons e es ih =>
    obtain ⟨k, v⟩ := e
    simpa [rereadEntries, Assoc.keys] using ih

/-- The text of a document that was written is the text of its entries. -/
theorem decode_written {doc : Entries} (hnodup : (Assoc.keys doc).Nodup) {t : String}
    (h : Storage.written Vocabulary.stateKey (.map doc) = .ok t) :
    decode t = .ok (.map (rereadEntries doc)) := by
  have hencode : encode (.map doc) = .ok t := by
    rw [Storage.written] at h
    split at h
    next heq =>
      cases h
      exact heq
    next => cases h
    next => cases h
  have hpairs : Assoc.ofPairs (rereadEntries doc) = rereadEntries doc :=
    Assoc.ofPairs_of_nodup (by rwa [keys_rereadEntries])
  rw [decode_encode hencode, reread, hpairs]

/-- **A document that was written** is read as what was written, restored. -/
theorem read_written {doc : Entries} (hnodup : (Assoc.keys doc).Nodup) {t : String}
    (h : Storage.written Vocabulary.stateKey (.map doc) = .ok t) :
    read (.text t) = .ok (restore (rereadEntries doc)) := by
  rw [read, key, Storage.ofRaw, decode_written hnodup h]
  rfl

/-- A sound document is read as itself, restored. -/
theorem read_written_of_sound {doc : Entries} (hsound : Sound doc) {t : String}
    (h : Storage.written Vocabulary.stateKey (.map doc) = .ok t) :
    read (.text t) = .ok (restore doc) := by
  rw [read_written (sound_iff.1 hsound).1 h, rereadEntries_of_plain doc hsound.1.2]

end Document

end SymbolSieve
