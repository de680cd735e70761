import SymbolSieve.Proofs.Document.Paths
import SymbolSieve.Proofs.Storage.Unsteady

/-!
# Values at paths of the stored document

A value that is written at a path of the stored document is found there, the rest of the document
reads as before, and what is loaded from then on is that document over the defaults.  Two values at
paths that have nothing to do with each other may be written in any order.

This is not quite so for every value.  A path makes the document as deep as the path is long, so a
value that can be stored by itself may be too deep for where it is to go; then nothing is written,
and the trouble is none that the storage reports.  And a text that is nested too deeply can not be
replaced, since the document is loaded before it is written.

## What is here

* `Restorable`: values that come back from their text; `Fits`, values that are not too deep for a
  path.
* `update_of_fits`, `update_of_not_fits`: what comes of writing a value at a path.
* `Writes`: everything that is expected of it.
* `writes_iff`: exactly when that is what happens, and that two values are written in any order.
-/

set_option autoImplicit false

namespace SymbolSieve.Document

open Json Desk

/-! ## Values that can be written -/

/-- A value that can be written as JSON text and is read from that text as it was. -/
def Restorable (v : Value) : Prop := ∃ t, encode v = .ok t ∧ decode t = .ok v

/-- A value at a path can be written as JSON text. -/
def Fits (path : String) (v : Value) : Prop :=
  ∃ t, encode (.map (putAt v (keysOf path) [])) = .ok t

theorem keysOf_ne_nil (path : String) : keysOf path ≠ [] :=
  fun h => Text.splitFrom_ne_nil '.' [] path.toList (List.map_eq_nil_iff.1 h)

theorem exists_encode_iff {v : Value} :
    (∃ t, encode v = .ok t) ↔ obstacle? depthLimit v = none := by
  rw [encode]
  split <;> simp_all

/-- Values come back from their text exactly if they are as those that were read from one. -/
theorem restorable_iff {v : Value} : Restorable v ↔ Faithful depthLimit v := by
  constructor
  · rintro ⟨t, -, hdecode⟩
    exact faithful_of_decode hdecode
  · rintro ⟨hplain, hobstacle⟩
    obtain ⟨t, hencode⟩ := exists_encode_iff.2 hobstacle
    exact ⟨t, hencode, (decode_encode hencode).trans (congrArg _ (reread_of_plain v hplain))⟩

theorem written_eq_ok_iff {key t : String} {v : Value} :
    Storage.written key v = .ok t ↔ encode v = .ok t := by
  rw [Storage.written]
  split <;> simp_all

/-- **Whether a value can be written into a document** does not depend on the document. -/
theorem fits_iff {path : String} {v : Value} (hv : Plain v) {doc : Entries} (hdoc : Sound doc) :
    Fits path v ↔ Sound (putAt v (keysOf path) doc) := by
  have hnil : Plain (.map (putAt v (keysOf path) [])) :=
    plain_putAt hv _ (faithful_nil innerDepth).1
  rw [Fits, exists_encode_iff, Sound, faithful_putAt_iff v _ (keysOf_ne_nil path) hdoc, Faithful,
    and_iff_right hnil]

/-! ## Writing -/

/-- The document that is loaded. -/
def loaded (h : Handle) (d : Desk) : Except ValueFault Entries := ((load h).run d).1

/-- The desk after a value was written at a path, if it could be. -/
def updated (h : Handle) (path : String) (value : Value) (d : Desk) : Desk :=
  ((update h path value).run d).2

section

variable {h : Handle} {d : Desk} {path : String} {v : Value}

theorem loaded_eq_read (hd : Good h d) :
    loaded h d = read (Storage.raw Vocabulary.stateKey d.storage) :=
  simulates_load.result_eq hd

theorem loaded_eq_error_iff (hd : Good h d) (fault : ValueFault) :
    loaded h d = .error fault ↔ Blocked d.storage ∧ fault = .tooDeep := by
  rw [loaded_eq_read hd, read_eq_error_iff, Blocked]

theorem exists_loaded (hd : Good h d) (hblocked : ¬ Blocked d.storage) :
    ∃ doc, loaded h d = .ok doc := by
  rw [loaded_eq_read hd]
  exact exists_read _ hblocked

theorem sound_of_loaded (hd : Good h d) {doc : Entries} (hdoc : loaded h d = .ok doc) :
    Sound doc := by
  rw [loaded_eq_read hd] at hdoc
  exact (sound_of_read hdoc).1

theorem good_updated (hd : Good h d) (path : String) (v : Value) : Good h (updated h path v d) :=
  (simulates_update path v).good_after hd

theorem result_update (hd : Good h d) (path : String) (v : Value) :
    ((update h path v).run d).1 = (updateView path v d.view).1 :=
  (simulates_update path v).result_eq hd

theorem loaded_updated (hd : Good h d) (path : String) (v : Value) :
    loaded h (updated h path v d) =
      read ((updateView path v d.view).2.contents Vocabulary.stateKey) := by
  rw [loaded_eq_read (good_updated hd path v), ← (simulates_update path v).view_after hd]
  rfl

/-- Where the document cannot be loaded, nothing is written. -/
theorem update_of_error (hd : Good h d) {fault : ValueFault} (hload : loaded h d = .error fault)
    (path : String) (v : Value) : ((update h path v).run d).1 = .error (.value fault) ∧
      loaded h (updated h path v d) = .error fault := by
  have hread : read (d.view.contents Vocabulary.stateKey) = .error fault :=
    (loaded_eq_read hd).symm.trans hload
  have hview : updateView path v d.view = (.error (.value fault), d.view) := by
    rw [updateView, hread]
  rw [result_update hd, loaded_updated hd, hview]
  exact ⟨rfl, hread⟩

/-- **Writing a value that fits**: the document that was loaded is stored with the value in it. -/
theorem update_of_fits (hd : Good h d) {doc : Entries} (hdoc : loaded h d = .ok doc)
    (hv : Plain v) (hfits : Fits path v) :
    ((update h path v).run d).1 = .ok (putAt v (keysOf path) doc) ∧
      loaded h (updated h path v d) = .ok (restore (putAt v (keysOf path) doc)) := by
  have hsound := (fits_iff hv (sound_of_loaded hd hdoc)).1 hfits
  obtain ⟨t, hwritten⟩ := exists_written hsound Vocabulary.stateKey
  have hread : read (d.view.contents Vocabulary.stateKey) = .ok doc :=
    (loaded_eq_read hd).symm.trans hdoc
  have hview : updateView path v d.view =
      (.ok (putAt v (keysOf path) doc), d.view.put Vocabulary.stateKey t) := by
    rw [updateView, hread]
    dsimp only
    rw [hwritten]
  rw [result_update hd, loaded_updated hd, hview, View.contents_put_self]
  exact ⟨rfl, read_written_of_sound hsound hwritten⟩

/-- Where a value does not fit, nothing is written. -/
theorem update_of_not_fits (hd : Good h d) {doc : Entries} (hdoc : loaded h d = .ok doc)
    (hv : Plain v) (hfits : ¬ Fits path v) :
    (∀ doc', ((update h path v).run d).1 ≠ .ok doc') ∧
      loaded h (updated h path v d) = .ok doc := by
  have hsound := mt (fits_iff hv (sound_of_loaded hd hdoc)).2 hfits
  have hread : read (d.view.contents Vocabulary.stateKey) = .ok doc :=
    (loaded_eq_read hd).symm.trans hdoc
  have hplain := plain_putAt hv (keysOf path) (sound_of_loaded hd hdoc).1
  rcases hwritten : Storage.written Vocabulary.stateKey (.map (putAt v (keysOf path) doc)) with
    e | t
  · have hview : updateView path v d.view = (.error e, d.view) := by
      rw [updateView, hread]
      dsimp only
      rw [hwritten]
    rw [result_update hd, loaded_updated hd, hview]
    exact ⟨by simp, hread⟩
  · exact absurd ⟨hplain, exists_encode_iff.1 ⟨t, written_eq_ok_iff.1 hwritten⟩⟩ hsound

end

/-! ## The main result -/

/-- Everything that is expected of writing a value at a path: it gives a document that has the value
there and reads elsewhere as before, and what is loaded from then on is that document over the
defaults, in the current version. -/
def Writes (h : Handle) (d : Desk) (path : String) (v : Value) : Prop :=
  ∃ before doc, loaded h d = .ok before ∧ ((update h path v).run d).1 = .ok doc ∧
    getAt? (keysOf path) doc = some v ∧
    (∀ other, Apart other (keysOf path) → getAt? other doc = getAt? other before) ∧
    loaded h (updated h path v d) =
      .ok (Assoc.put "version" (.int Vocabulary.stateVersion) (overlay default doc))

/-- The same is loaded, up to the order of the keys. -/
inductive SameLoaded : Except ValueFault Entries → Except ValueFault Entries → Prop where
  | ok {doc doc' : Entries} (h : SameUpToOrder doc doc') : SameLoaded (.ok doc) (.ok doc')
  | error (fault : ValueFault) : SameLoaded (.error fault) (.error fault)

section

variable {h : Handle} {d : Desk}

theorem writes_of_fits (hd : Good h d) (hblocked : ¬ Blocked d.storage) {path : String} {v : Value}
    (hv : Plain v) (hfits : Fits path v) : Writes h d path v := by
  obtain ⟨doc, hdoc⟩ := exists_loaded hd hblocked
  obtain ⟨hresult, hafter⟩ := update_of_fits hd hdoc hv hfits
  exact ⟨doc, _, hdoc, hresult, getAt?_putAt_self v _ (keysOf_ne_nil path) doc,
    fun other hother => getAt?_putAt_of_apart v hother doc, hafter⟩

theorem fits_of_writes (hd : Good h d) {path : String} {v : Value} (hv : Plain v)
    (hwrites : Writes h d path v) : ¬ Blocked d.storage ∧ Fits path v := by
  obtain ⟨before, doc, hbefore, hresult, -⟩ := hwrites
  refine ⟨fun hblocked => ?_, by_contra fun hfits => ?_⟩
  · rw [(loaded_eq_error_iff hd _).2 ⟨hblocked, rfl⟩] at hbefore
    cases hbefore
  · exact (update_of_not_fits hd hbefore hv hfits).1 doc hresult

/-- Whatever comes of writing a value, what is loaded afterwards is known. -/
theorem loaded_updated_cases (hd : Good h d) {doc : Entries} (hdoc : loaded h d = .ok doc)
    {v : Value} (hv : Plain v) (path : String) :
    (Fits path v ∧
      loaded h (updated h path v d) = .ok (restore (putAt v (keysOf path) doc))) ∨
    (¬ Fits path v ∧ loaded h (updated h path v d) = .ok doc) := by
  by_cases hfits : Fits path v
  · exact .inl ⟨hfits, (update_of_fits hd hdoc hv hfits).2⟩
  · exact .inr ⟨hfits, (update_of_not_fits hd hdoc hv hfits).2⟩

/-- **Two values are written in any order** at paths of which neither leads on from the other. -/
theorem updated_comm (hd : Good h d) {path other : String} {v w : Value} (hv : Plain v)
    (hw : Plain w) (hapart : Apart (keysOf path) (keysOf other)) :
    SameLoaded (loaded h (updated h other w (updated h path v d)))
      (loaded h (updated h path v (updated h other w d))) := by
  have hd₁ := good_updated hd path v
  have hd₂ := good_updated hd other w
  match hdoc : loaded h d with
  | .error fault =>
    rw [(update_of_error hd₁ (update_of_error hd hdoc path v).2 other w).2,
      (update_of_error hd₂ (update_of_error hd hdoc other w).2 path v).2]
    exact .error fault
  | .ok doc =>
    have hplain := (sound_of_loaded hd hdoc).1
    obtain ⟨hpath, h₁⟩ | ⟨hpath, h₁⟩ := loaded_updated_cases hd hdoc hv path <;>
      obtain ⟨hother, h₂⟩ | ⟨hother, h₂⟩ := loaded_updated_cases hd hdoc hw other
    · rw [(update_of_fits hd₁ h₁ hw hother).2, (update_of_fits hd₂ h₂ hv hpath).2]
      exact .ok (restore_putAt_comm hv hw hapart hplain)
    · rw [(update_of_not_fits hd₁ h₁ hw hother).2, (update_of_fits hd₂ h₂ hv hpath).2]
      exact .ok (.refl _)
    · rw [(update_of_fits hd₁ h₁ hw hother).2, (update_of_not_fits hd₂ h₂ hv hpath).2]
      exact .ok (.refl _)
    · rw [(update_of_not_fits hd₁ h₁ hw hother).2, (update_of_not_fits hd₂ h₂ hv hpath).2]
      exact .ok (.refl _)

/-- **Writing a value at a path** of a document on healthy storage goes as it is expected to exactly
if the text that is stored is not nested too deeply and the value fits there.  Two values at paths
of which neither leads on from the other may be written in any order, whether they fit or not. -/
theorem writes_iff (hd : Good h d) :
    (∀ path v, Restorable v → (Writes h d path v ↔ ¬ Blocked d.storage ∧ Fits path v)) ∧
    ∀ path other v w, Restorable v → Restorable w → Apart (keysOf path) (keysOf other) →
      SameLoaded (loaded h (updated h other w (updated h path v d)))
        (loaded h (updated h path v (updated h other w d))) := by
  refine ⟨fun path v hv => ?_, fun path other v w hv hw hapart => ?_⟩
  · have hplain := (restorable_iff.1 hv).1
    exact ⟨fits_of_writes hd hplain, fun h => writes_of_fits hd h.1 hplain h.2⟩
  · exact updated_comm hd (restorable_iff.1 hv).1 (restorable_iff.1 hw).1 hapart

end

/-- A desk with memory that holds something under the key of the document. -/
def deskHolding (raw : Value) : Desk where
  storage := .memory { items := [(key, raw)] }

theorem good_deskHolding (raw : Value) : Good 0 (deskHolding raw) := ⟨fun _ => rfl, fun _ => rfl⟩

theorem blocked_deskHolding_iff (raw : Value) :
    Blocked (deskHolding raw).storage ↔ TooDeep raw := by
  have hraw : Storage.raw Vocabulary.stateKey (deskHolding raw).storage = raw := by
    simp [deskHolding, Storage.raw, key, Assoc.get?, Value.beq_text_iff]
  rw [Blocked, hraw]

theorem restorable_text (t : String) : Restorable (.text t) :=
  restorable_iff.2 (faithful_text _ t)

/-- A document of which the filters are no mapping, and two filters that are written into it. -/
theorem writes_iff_filters :
    Writes 0 (deskHolding (.text "\x7b\"filters\": 5\x7d")) "filters.search" (.text "main") ∧
      SameLoaded
        (loaded 0 (updated 0 "filters.kind" (.text "function") (updated 0 "filters.search"
          (.text "main") (deskHolding (.text "\x7b\"filters\": 5\x7d")))))
        (loaded 0 (updated 0 "filters.search" (.text "main") (updated 0 "filters.kind"
          (.text "function") (deskHolding (.text "\x7b\"filters\": 5\x7d"))))) := by
  obtain ⟨hwrites, hcomm⟩ := writes_iff (good_deskHolding (.text "\x7b\"filters\": 5\x7d"))
  have hshallow : ¬ TooDeep (.text "\x7b\"filters\": 5\x7d") := by
    have hok : (decode "\x7b\"filters\": 5\x7d").isOk = true := by decide +kernel
    rintro ⟨t, ht, hdecode⟩
    rw [← Value.text.inj ht] at hdecode
    rw [hdecode] at hok
    cases hok
  have hfits : Fits "filters.search" (.text "main") := exists_encode_iff.2 (by decide +kernel)
  refine ⟨(hwrites _ _ (restorable_text _)).2
    ⟨mt (blocked_deskHolding_iff _).1 hshallow, hfits⟩,
    hcomm _ _ _ _ (restorable_text _) (restorable_text _) ⟨by decide, by decide⟩⟩

/-- Under a text that is nested too deeply, not even a name can be written. -/
theorem not_writes_on_deepText :
    Good 0 (deskHolding (.text deepText)) ∧ Restorable (.text "name") ∧
      ((update 0 "sortState" (.text "name")).run (deskHolding (.text deepText))).1 =
        .error (.value .tooDeep) ∧
      ¬ Writes 0 (deskHolding (.text deepText)) "sortState" (.text "name") := by
  have hload : loaded 0 (deskHolding (.text deepText)) = .error .tooDeep :=
    (loaded_eq_error_iff (good_deskHolding _) _).2
      ⟨(blocked_deskHolding_iff _).2 tooDeep_deepText, rfl⟩
  refine ⟨good_deskHolding _, restorable_text _,
    (update_of_error (good_deskHolding _) hload _ _).1, ?_⟩
  rintro ⟨before, doc, hbefore, -⟩
  rw [hload] at hbefore
  cases hbefore

end SymbolSieve.Document
