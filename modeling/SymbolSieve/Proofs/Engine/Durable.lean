import SymbolSieve.Proofs.Engine.Changes

/-!
# The filters in the document

Four fields of the filters outlive a session.  They stand in the state document among whatever else
is there, and storing them leaves the rest alone.  They come back as they were stored, if they have
values that are accepted when they are read.

## What is here

* `Storable`: the values of fields that come back.
* `Document.Holds`: a document holds the filters of a specification.
* `updateView_filters`: storing filters puts them into the document and nothing else.
* `updateView_elsewhere`: writing elsewhere in the document leaves the filters alone.
* `taken?`: the value that an engine takes over for a field, and `get_restored_apply`, what taking
  over some fields makes of each field.
* `get_restored`: what taking over fields that were stored makes of the filters of an engine.
-/

set_option autoImplicit false

namespace SymbolSieve

open Json Session

/-! ## Fields that come back -/

/-- A value that is accepted for a field when it was stored; fields that are not stored may have
any. -/
def Storable (f : Field) (v : Value) : Prop := f ∈ Field.durable → acceptsStored f v = true

theorem exists_text_of_acceptsStored {f : Field} {v : Value} (h : acceptsStored f v = true) :
    ∃ t, v = .text t := by
  cases v with
  | text t => exact ⟨t, rfl⟩
  | _ => cases h

/-- Whatever a query gives to a field comes back. -/
theorem storable_of_admits (f : Field) (v : Value) (h : Query.Admits f v) : Storable f v := by
  intro hf
  cases f with
  | search | file =>
    obtain ⟨t, rfl, -⟩ := h
    rfl
  | kind =>
    obtain ⟨k, hk, rfl⟩ := h
    exact List.contains_iff_mem.2 hk
  | state =>
    rcases h with rfl | ⟨k, hk, rfl⟩
    · rfl
    · simp [acceptsStored, hk]
  | _ => exact absurd hf (by decide)

variable {s : Spec}

theorem exists_text_of_storable (hs : s.Fieldwise Storable) {f : Field} (hf : f ∈ Field.durable) :
    ∃ t, s.get f = .text t :=
  exists_text_of_acceptsStored (hs f hf)

theorem get?_durableEntries (s : Spec) {f : Field} (hf : f ∈ Field.durable) :
    Assoc.get? f.wireName s.durableEntries = some (s.get f) := by
  cases f with
  | search | kind | state | file => rfl
  | _ => exact absurd hf (by decide)

theorem faithful_of_storable (hs : s.Fieldwise Storable) (f : Field) (hf : f ∈ Field.durable)
    (depth : Nat) : Faithful depth (s.get f) := by
  obtain ⟨t, ht⟩ := exists_text_of_storable hs hf
  rw [ht]
  exact Document.faithful_text depth t

/-- The durable fields can be stored and come back as they are if each of them does. -/
theorem faithful_durableEntries
    (hs : ∀ f ∈ Field.durable, ∀ depth, Faithful depth (s.get f)) :
    Faithful Document.innerDepth (.map s.durableEntries) := by
  have hnodup : (Assoc.keys s.durableEntries).Nodup := by
    simp [Spec.durableEntries, Field.durable, Assoc.keys, Field.wireName]
  refine Document.faithful_map_iff.2 ⟨hnodup, fun e he => ?_⟩
  obtain ⟨f, hf, rfl⟩ := List.mem_map.1 he
  exact hs f hf _

/-- Whatever is laid over a text replaces it. -/
theorem overlayValue_text (t : String) (v : Value) :
    Document.overlayValue (some (.text t)) v = v := by
  cases v <;> simp [Document.overlayValue]

/-- Stored fields win over their defaults. -/
theorem overlay_durableEntries (s : Spec) :
    Document.overlay Spec.unconstrained.durableEntries s.durableEntries = s.durableEntries := by
  simp [Spec.durableEntries, Field.durable, Field.wireName, Field.default, Document.overlay,
    Assoc.get?, Assoc.put, overlayValue_text]

/-! ## Documents that hold filters -/

namespace Document

/-- A document holds the filters of a specification. -/
def Holds (doc : Entries) (s : Spec) : Prop :=
  Assoc.get? "filters" doc = some (.map s.durableEntries)

theorem Holds.restore {saved : Entries} (hnodup : (Assoc.keys saved).Nodup)
    (h : Holds saved s) : Holds (restore saved) s := by
  rw [Holds, Document.restore, Assoc.get?_put_of_ne _ _ (by decide), get?_overlay "filters" hnodup,
    h]
  show some (overlayValue (some (.map Spec.unconstrained.durableEntries)) _) = _
  rw [overlayValue, overlay_durableEntries]

theorem holds_default : Holds default .unconstrained := rfl

variable {v : Desk.View} {doc : Entries} {fault : ValueFault}

theorem updateView_of_error (path : String) (value : Value)
    (hread : read (v.contents Vocabulary.stateKey) = .error fault) :
    updateView path value v = (.error (.value fault), v) := by
  rw [updateView, hread]

/-- **Storing filters** puts them into the document, and leaves the rest of it alone. -/
theorem updateView_filters (hread : read (v.contents Vocabulary.stateKey) = .ok doc)
    (hs : ∀ f ∈ Field.durable, ∀ depth, Faithful depth (s.get f)) :
    ∃ t doc', (updateView "filters" (.map s.durableEntries) v).2 = v.put Vocabulary.stateKey t ∧
      (∃ r, (updateView "filters" (.map s.durableEntries) v).1 = .ok r) ∧
      read (.text t) = .ok doc' ∧ Holds doc' s ∧
      ∀ k, k ≠ "filters" → Assoc.get? k doc' = Assoc.get? k doc := by
  obtain ⟨hsound, hversion⟩ := sound_of_read hread
  have hput : putAt (.map s.durableEntries) (keysOf "filters") doc =
      Assoc.put "filters" (.map s.durableEntries) doc := rfl
  have hsound' := hsound.put "filters" (faithful_durableEntries hs)
  have hnodup := (sound_iff.1 hsound').1
  obtain ⟨t, ht⟩ := exists_written hsound' Vocabulary.stateKey
  rw [updateView, hread]
  dsimp only
  rw [hput, ht]
  refine ⟨t, _, rfl, ⟨_, rfl⟩, read_written_of_sound hsound' ht,
    Holds.restore hnodup (Assoc.get?_put_self ..), fun k hk => ?_⟩
  by_cases hkversion : k = "version"
  · rw [hkversion, get?_restore_version, hversion]
  · rw [get?_restore_of_ne hkversion hk hnodup, Assoc.get?_put_of_ne _ _ hk]

/-- **Writing elsewhere** in the document leaves the filters alone. -/
theorem updateView_elsewhere (hread : read (v.contents Vocabulary.stateKey) = .ok doc)
    (path : String) (value : Value) : ∃ doc',
      read ((updateView path value v).2.contents Vocabulary.stateKey) = .ok doc' ∧
      ((keysOf path).head? ≠ some "filters" →
        ∀ s : Spec, s.Fieldwise Storable → Holds doc s → Holds doc' s) := by
  have hnodup := nodup_keys_putAt value (keysOf path) (sound_iff.1 (sound_of_read hread).1).1
  rw [updateView, hread]
  dsimp only
  cases hwritten : Storage.written Vocabulary.stateKey (.map (putAt value (keysOf path) doc)) with
  | error e => exact ⟨doc, hread, fun _ _ _ => id⟩
  | ok t =>
    refine ⟨_,
      (congrArg read (Desk.View.contents_put_self ..)).trans (read_written hnodup hwritten),
      fun hpath s hs h => Holds.restore (by rwa [keys_rereadEntries]) ?_⟩
    rw [Holds, get?_rereadEntries, get?_putAt_of_ne value doc hpath, h, Option.map_some,
      reread_of_plain _ (faithful_durableEntries (faithful_of_storable hs)).1]

end Document

/-! ## Taking over -/

namespace Session

/-- The value that an engine takes over for a field, if there is one that is accepted. -/
def taken? (stored : Entries) (f : Field) : Option Value :=
  (Assoc.get? f.wireName stored).filter (acceptsStored f)

theorem taken?_of_none {stored : Entries} {f : Field} (h : Assoc.get? f.wireName stored = none) :
    taken? stored f = none := by
  rw [taken?, h, Option.filter_none]

theorem taken?_of_some {stored : Entries} {f : Field} {v : Value}
    (h : Assoc.get? f.wireName stored = some v) :
    taken? stored f = if acceptsStored f v then some v else none := by
  rw [taken?, h, Option.filter_some]

/-- A field gets the value that is taken over, or stays. -/
theorem restoreField_fst (stored : Entries) (s : Spec) (f : Field) :
    (restoreField stored s f).1 = ((taken? stored f).map (s.set f)).getD s := by
  rw [restoreField]
  split
  next h => rw [taken?_of_none h]; rfl
  next h => rw [taken?_of_some h]; rfl
  next v _ h =>
    rw [taken?_of_some h]
    cases acceptsStored f v <;> rfl

theorem get_restoreField (stored : Entries) (s : Spec) (f g : Field) :
    (restoreField stored s f).1.get g =
      if g = f then (taken? stored f).getD (s.get f) else s.get g := by
  rw [restoreField_fst]
  cases taken? stored f with
  | none => by_cases hg : g = f <;> simp [hg]
  | some v =>
    by_cases hg : g = f
    · subst hg
      rw [if_pos rfl]
      exact Spec.get_set_self s g v
    · rw [if_neg hg]
      exact Spec.get_set_of_ne s v hg

/-- **Taking over some fields** gives each of them the value that is stored, if that is accepted,
and leaves the others. -/
theorem get_restored_apply (stored : Entries) (fs : List Field) (s : Spec) (f : Field) :
    (View.restored stored fs s).get f =
      if f ∈ fs then (taken? stored f).getD (s.get f) else s.get f := by
  induction fs generalizing s with
  | nil => rfl
  | cons g fs ih =>
    have hstep : View.restored stored (g :: fs) s =
        View.restored stored fs (restoreField stored s g).1 := rfl
    rw [hstep, ih, get_restoreField]
    by_cases hfg : f = g
    · subst hfg
      cases taken? stored f <;> simp
    · simp [hfg]

/-- Taking over a field leaves it or gives it a value that is accepted. -/
theorem fieldwise_restored {t : Spec} (ht : t.Fieldwise Storable) (stored : Entries)
    (fs : List Field) : (View.restored stored fs t).Fieldwise Storable := by
  intro f
  rw [get_restored_apply]
  split
  · cases htaken : taken? stored f with
    | none => exact ht f
    | some v => exact fun _ => (Option.filter_eq_some_iff.1 htaken).2
  · exact ht f

/-- **Taking over stored filters** gives the durable fields their values, and leaves the others. -/
theorem get_restored (hs : s.Fieldwise Storable) (t : Spec) (f : Field) :
    (View.restored s.durableEntries Field.durable t).get f =
      if f ∈ Field.durable then s.get f else t.get f := by
  rw [get_restored_apply]
  split
  next hf =>
    rw [taken?_of_some (get?_durableEntries s hf), if_pos (hs f hf)]
    rfl
  next => rfl

end Session

end SymbolSieve
