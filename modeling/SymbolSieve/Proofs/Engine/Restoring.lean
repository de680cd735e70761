import SymbolSieve.Proofs.Document.Paths
import SymbolSieve.Proofs.Engine.Durable
import SymbolSieve.Proofs.Storage.Unsteady

/-!
# Filters that are restored

Restoring takes the stored fields over into an engine, each of them if it has a value that is
accepted.  One would expect that an engine stays as it is if nothing can be read.  But what cannot
be read has been replaced by the default document by then, which looks like any other document, so
the engine takes over defaults.  A new engine has these anyway; one that is in use loses its durable
filters.

Nothing is assumed about the storage, nor about who listens.

## What is here

* `View.takenOver`: the filters after those of a document were taken over;
  `get_takenOver_default`, `get_takenOver_restore`, for the default document and for a stored one.
* `Turned`: sessions that differ in the filters of one engine at most, and in what was logged.
* `restore_of_load`, `restore_of_load_error`: what restoring comes to.
* `failed_load_iff`: exactly when an engine stays as it is although nothing can be read.
-/

set_option autoImplicit false

namespace SymbolSieve.Session

open Document (documentFor)
open Json (Plain)

/-! ## Documents -/

/-- The filters of an engine after those of a document were taken over. -/
def View.takenOver (doc : Entries) (s : Spec) : Spec :=
  match Assoc.get? "filters" doc with
  | some (.map stored) => View.restored stored Field.durable s
  | _ => s

/-- The filters of an engine after those of a document were taken over, if there is a document. -/
def View.takenFrom (doc : Except ValueFault Entries) (s : Spec) : Spec :=
  match doc with
  | .ok doc => takenOver doc s
  | .error _ => s

/-- **The default document** gives every durable field its default. -/
theorem get_takenOver_default (s : Spec) (f : Field) :
    (View.takenOver Document.default s).get f =
      if f ∈ Field.durable then f.default else s.get f := by
  have hstorable : Spec.unconstrained.Fieldwise Storable :=
    Spec.fieldwise_unconstrained fun f => storable_of_admits f _ (Query.admits_default f)
  have hdoc : View.takenOver Document.default s =
      View.restored Spec.unconstrained.durableEntries Field.durable s := rfl
  rw [hdoc, get_restored hstorable, Spec.get_unconstrained]

theorem default_eq_text {f : Field} (hf : f ∈ Field.durable) :
    ∃ t, f.default = .text t ∧ acceptsStored f f.default = true := by
  cases f with
  | search | kind | state | file => exact ⟨_, rfl, rfl⟩
  | _ => exact absurd hf (by decide)

/-- The entry of the filters in a restored document. -/
theorem get?_restore_filters {es : Entries} (h : (Assoc.keys es).Nodup) :
    Assoc.get? "filters" (Document.restore es) = some (match Assoc.get? "filters" es with
      | none => .map Spec.unconstrained.durableEntries
      | some v => Document.overlayValue (some (.map Spec.unconstrained.durableEntries)) v) := by
  rw [Document.restore, Assoc.get?_put_of_ne _ _ (by decide), Document.get?_overlay _ h]
  cases Assoc.get? "filters" es <;> rfl

/-- What is taken over for a field from filters that were laid over the default ones. -/
theorem taken?_overlay {fs : Entries} (h : (Assoc.keys fs).Nodup) {f : Field}
    (hf : f ∈ Field.durable) :
    taken? (Document.overlay Spec.unconstrained.durableEntries fs) f =
      if Assoc.get? f.wireName fs = none then some f.default else taken? fs f := by
  obtain ⟨t, ht, haccepts⟩ := default_eq_text hf
  have hdefault : Assoc.get? f.wireName Spec.unconstrained.durableEntries = some (.text t) := by
    rw [get?_durableEntries _ hf, Spec.get_unconstrained, ht]
  have hget : Assoc.get? f.wireName (Document.overlay Spec.unconstrained.durableEntries fs) = _ :=
    Document.get?_overlay f.wireName h
  rw [hdefault] at hget
  match hstored : Assoc.get? f.wireName fs with
  | none =>
    rw [hstored] at hget
    rw [if_pos rfl, taken?_of_some hget, ← ht, if_pos haccepts]
  | some v =>
    rw [hstored] at hget
    dsimp only at hget
    rw [overlayValue_text] at hget
    rw [if_neg nofun, taken?_of_some hget, taken?_of_some hstored]

/-- **A stored document** gives a field the value that it has for it, if that is accepted.  The
default is taken over where it has none, and nothing at all if its filters are no mapping. -/
theorem get_takenOver_restore {es : Entries} (h : Plain (.map es)) (s : Spec) {f : Field}
    (hf : f ∈ Field.durable) :
    (View.takenOver (Document.restore es) s).get f = match Assoc.get? "filters" es with
      | none => f.default
      | some (.map fs) =>
        if Assoc.get? f.wireName fs = none then f.default else (taken? fs f).getD (s.get f)
      | some _ => s.get f := by
  have hget := get?_restore_filters h.1
  match hfilters : Assoc.get? "filters" es with
  | none =>
    rw [hfilters] at hget
    have hdefault := get_takenOver_default s f
    rw [View.takenOver, hget]
    rw [if_pos hf] at hdefault
    exact hdefault
  | some v =>
    rw [hfilters] at hget
    obtain hv | ⟨fs, rfl⟩ := v.isLeaf_or_map
    · dsimp only at hget
      rw [Document.overlayValue_leaf _ hv] at hget
      rw [View.takenOver, hget]
      match v with
      | .map fs => exact absurd rfl (hv fs)
      | .null | .bool _ | .int _ | .float _ | .text _ | .list _ | .object _ => rfl
    · have hnodup : (Assoc.keys fs).Nodup := (Document.plain_of_get? h hfilters).1
      dsimp only at hget
      rw [Document.overlayValue] at hget
      rw [View.takenOver, hget]
      dsimp only
      rw [get_restored_apply, if_pos hf, taken?_overlay hnodup hf]
      split <;> rfl

/-- A refinement is never taken over. -/
theorem get_takenOver_of_not_mem (doc : Entries) (s : Spec) {f : Field} (hf : f ∉ Field.durable) :
    (View.takenOver doc s).get f = s.get f := by
  rw [View.takenOver]
  split
  · rw [get_restored_apply, if_neg hf]
  · rfl

/-! ## Sessions -/

/-- Sessions that differ in the filters of one engine at most, and in what was logged. -/
structure Turned (name : String) (spec : Spec) (s t : Session) : Prop where
  engine : t.engineOf (.text name) = { s.engineOf (.text name) with spec }
  heard : t.heard = s.heard
  storage : t.desk.storage = s.desk.storage

namespace Turned

variable {name : String} {spec spec' : Spec} {s t u : Session}

theorem refl (name : String) (s : Session) : Turned name (s.engineOf (.text name)).spec s s :=
  ⟨rfl, rfl, rfl⟩

theorem trans (h : Turned name spec s t) (h' : Turned name spec' t u) : Turned name spec' s u where
  engine := by rw [h'.engine, h.engine]
  heard := h'.heard.trans h.heard
  storage := h'.storage.trans h.storage

theorem spec_eq (h : Turned name spec s t) : (t.engineOf (.text name)).spec = spec := by
  rw [h.engine]

end Turned

theorem turned_setEngine (name : String) (spec : Spec) (s : Session) :
    Turned name spec s (setEngine (.text name) { s.engineOf (.text name) with spec } s).2 where
  engine := by rw [engineOf_setEngine, if_pos rfl]
  heard := rfl
  storage := rfl

/-- Log lines do not count. -/
theorem Turned.report {name : String} {spec : Spec} {s t : Session} (h : Turned name spec s t)
    (level : LogLevel) (message : String) :
    Turned name spec s (Session.report level message t).2 := ⟨h.engine, h.heard, h.storage⟩

/-- One field is taken over, and then the others. -/
theorem restoreFields_cons (name : String) (stored : Entries) (f : Field) (fs : List Field)
    (s : Session) : ∃ t, restoreFields (.text name) stored (f :: fs) s =
        restoreFields (.text name) stored fs t ∧
      Turned name (restoreField stored (s.engineOf (.text name)).spec f).1 s t := by
  have hengine : engine (.text name) s = (s.engineOf (.text name), s) := rfl
  rw [restoreFields, run_bind hengine]
  generalize restoreField stored (s.engineOf (.text name)).spec f = r
  obtain ⟨spec, _ | message⟩ := r
  · exact ⟨_, rfl, turned_setEngine name spec s⟩
  · exact ⟨_, rfl, (turned_setEngine name spec s).report .warning message⟩

/-- **Fields that are taken over** change the filters of the engine. -/
theorem turned_restoreFields (name : String) (stored : Entries) (fs : List Field) (s : Session) :
    Turned name (View.restored stored fs (s.engineOf (.text name)).spec) s
      (restoreFields (.text name) stored fs s).2 := by
  induction fs generalizing s with
  | nil => exact .refl name s
  | cons f fs ih =>
    obtain ⟨t, hrun, hturned⟩ := restoreFields_cons name stored f fs s
    have hrest := ih t
    rw [hturned.spec_eq, ← hrun] at hrest
    exact hturned.trans hrest

variable {h : Handle} {name : String} {s : Session}

/-- What a read of the stored document would give. -/
def content (h : Handle) (s : Session) : Except AccessFault Value :=
  (Storage.getItem h Document.key s.desk.storage).1

theorem restore_of_load_error (hhandle : (s.engineOf (.text name)).handle = some h)
    {fault : ValueFault} {d : Desk} (hload : (Document.load h).run s.desk = (.error fault, d)) :
    restore (.text name) s = (.error fault, { s with desk := d }) := by
  have hdesk : onDesk (Document.load h).run s = (.error fault, { s with desk := d }) := by
    rw [onDesk, hload]
  have hengine : engine (.text name) s = (s.engineOf (.text name), s) := rfl
  rw [restore, run_bind hengine, hhandle]
  exact run_bind hdesk

/-- If there is a document, the engine takes over what it has for the filters. -/
theorem restore_of_load (hhandle : (s.engineOf (.text name)).handle = some h) {doc : Entries}
    {d : Desk} (hload : (Document.load h).run s.desk = (.ok doc, d)) :
    ∃ t, restore (.text name) s = (.ok (), t) ∧
      Turned name (View.takenOver doc (s.engineOf (.text name)).spec) { s with desk := d } t := by
  have hdesk : onDesk (Document.load h).run s = (.ok doc, { s with desk := d }) := by
    rw [onDesk, hload]
  have hengine : engine (.text name) s = (s.engineOf (.text name), s) := rfl
  rw [restore, run_bind hengine, hhandle]
  dsimp only
  rw [run_bind hdesk, View.takenOver]
  dsimp only
  generalize Assoc.get? "filters" doc = found
  match found with
  | some (.map stored) =>
    exact ⟨_, rfl, turned_restoreFields name stored _ { s with desk := d }⟩
  | none | some .null | some (.bool _) | some (.int _) | some (.float _) | some (.text _)
  | some (.list _) | some (.object _) => exact ⟨_, rfl, .refl name { s with desk := d }⟩

/-- What restoring comes to, given the document that there is for what is read: it fails without
one, and takes the filters of it over otherwise.  Nobody is told, and nothing is written. -/
structure Restored (doc : Except ValueFault Entries) (name : String) (s : Session) : Prop where
  result : (restore (.text name) s).1 = doc.map fun _ => ()
  spec : ((restore (.text name) s).2.engineOf (.text name)).spec =
    View.takenFrom doc (s.engineOf (.text name)).spec
  heard : (restore (.text name) s).2.heard = s.heard
  storage : s.desk.storage.OnlyRead (restore (.text name) s).2.desk.storage

/-- **Restoring** an engine, whatever is stored and however the storage fails. -/
theorem restored_of_handle (hhandle : (s.engineOf (.text name)).handle = some h) :
    Restored (documentFor (content h s)) name s := by
  obtain ⟨log, hload⟩ := Document.run_load_getItem h s.desk
  have honly := Storage.onlyRead_getItem h Vocabulary.stateKey s.desk.storage
  rw [content]
  match hdoc : documentFor (Storage.getItem h Document.key s.desk.storage).1 with
  | .error fault =>
    rw [hdoc] at hload
    have hrun := restore_of_load_error hhandle hload
    exact ⟨by rw [hrun]; rfl, by rw [hrun]; rfl, by rw [hrun], by rw [hrun]; exact honly⟩
  | .ok doc =>
    rw [hdoc] at hload
    obtain ⟨t, hrun, hturned⟩ := restore_of_load hhandle hload
    refine ⟨by rw [hrun]; rfl, ?_, ?_, ?_⟩
    · rw [hrun]
      exact hturned.spec_eq
    · rw [hrun]
      exact hturned.heard
    · rw [hrun, hturned.storage]
      exact honly

/-! ## Where nothing can be read -/

/-- A read fails, or gives what is stored. -/
theorem content_cases (h : Handle) (s : Session) : (∃ e, content h s = .error (.storage e)) ∨
    content h s = .ok (Storage.raw Vocabulary.stateKey s.desk.storage) := by
  obtain ⟨s', -, hget | ⟨e, hget⟩⟩ :=
    Storage.getItem_cases h Vocabulary.stateKey s.desk.storage
  · exact .inr (congrArg Prod.fst hget)
  · exact .inl ⟨e, congrArg Prod.fst hget⟩

/-- A read fails, or gives a text that cannot be read. -/
def Unreadable (content : Except AccessFault Value) : Prop :=
  (∃ e, content = .error (.storage e)) ∨ ∃ t, content = .ok (.text t) ∧ ∀ v, Json.decode t ≠ .ok v

/-- A read gives a text that is nested too deeply. -/
def Unfathomable (content : Except AccessFault Value) : Prop :=
  ∃ raw, content = .ok raw ∧ Document.TooDeep raw

/-- **What cannot be read** is replaced by the default document, unless it is nested too deeply. -/
theorem documentFor_of_unreadable {content : Except AccessFault Value} (h : Unreadable content) :
    (Unfathomable content ∧ documentFor content = .error .tooDeep) ∨
      (¬ Unfathomable content ∧ documentFor content = .ok Document.default) := by
  obtain ⟨e, rfl⟩ | ⟨t, rfl, ht⟩ := h
  · exact .inr ⟨nofun, rfl⟩
  · rw [Document.documentFor_ok]
    by_cases hdeep : Document.TooDeep (.text t)
    · exact .inl ⟨⟨_, rfl, hdeep⟩, (Document.read_eq_error_iff _ _).2 ⟨hdeep, rfl⟩⟩
    · refine .inr ⟨?_, Document.read_of_corrupt ht hdeep⟩
      rintro ⟨raw, hraw, hdeep'⟩
      exact hdeep (Except.ok.inj hraw ▸ hdeep')

/-- **A load that fails** leaves an engine as it is exactly if the durable filters of that engine
are the default ones anyway.  If a text is nested too deeply, the failure gets out before anything
is taken over.  The refinements stay in any case. -/
theorem failed_load_iff (hhandle : (s.engineOf (.text name)).handle = some h)
    (hfail : Unreadable (content h s)) :
    (∀ f, f ∉ Field.durable → ((restore (.text name) s).2.engineOf (.text name)).spec.get f =
      (s.engineOf (.text name)).spec.get f) ∧
    (((restore (.text name) s).2.engineOf (.text name)).spec = (s.engineOf (.text name)).spec ↔
      Unfathomable (content h s) ∨
        ∀ f ∈ Field.durable, (s.engineOf (.text name)).spec.get f = f.default) := by
  have hspec := (restored_of_handle hhandle).spec
  generalize (restore (.text name) s).2.engineOf (.text name) = after at hspec
  generalize (s.engineOf (.text name)).spec = before at hspec
  obtain ⟨hdeep, hdoc⟩ | ⟨hdeep, hdoc⟩ := documentFor_of_unreadable hfail
  · rw [hdoc, View.takenFrom] at hspec
    exact ⟨fun f _ => by rw [hspec], iff_of_true hspec (.inl hdeep)⟩
  · rw [hdoc, View.takenFrom] at hspec
    refine ⟨fun f hf => by rw [hspec, get_takenOver_of_not_mem _ _ hf], ?_⟩
    rw [or_iff_right hdeep]
    constructor
    · intro hsame f hf
      have hget := get_takenOver_default before f
      rw [if_pos hf, ← hspec, hsame] at hget
      exact hget
    · intro hdefault
      refine Spec.ext_get fun f => ?_
      rw [hspec, get_takenOver_default]
      by_cases hf : f ∈ Field.durable
      · rw [if_pos hf, hdefault f hf]
      · rw [if_neg hf]

/-- A session on memory in which an engine filters by a kind, and in which every read fails from now
on. -/
def cutOff : Session :=
  let s := (change (.text "main") (.update [("kind", .text "function")]) (onMemory [])).2
  { s with desk := { s.desk with storage := s.desk.storage.plan { reads := fun _ => true } } }

theorem unreadable_cutOff : Unreadable (content 0 cutOff) := by
  have hfails : (content 0 cutOff).isOk = false := by decide +kernel
  refine .inl ((content_cases 0 cutOff).resolve_right fun hok => ?_)
  rw [hok] at hfails
  cases hfails

/-- Another engine, which has the default filters, keeps them. -/
theorem failed_load_iff_side :
    ((restore (.text "side") cutOff).2.engineOf (.text "side")).spec =
      (cutOff.engineOf (.text "side")).spec := by
  have hhandle : (cutOff.engineOf (.text "side")).handle = some 0 := by decide +kernel
  have hdefault : ∀ f ∈ Field.durable,
      ((cutOff.engineOf (.text "side")).spec.get f == f.default) = true := by decide +kernel
  refine (failed_load_iff hhandle unreadable_cutOff).2.2 (.inr fun f hf => ?_)
  obtain ⟨t, ht, -⟩ := default_eq_text hf
  have hsame := hdefault f hf
  rw [ht] at hsame ⊢
  exact (Value.beq_text_iff _ _).1 hsame

/-- An engine that filters by a kind has lost it when a load has failed. -/
theorem kind_lost_on_failed_load :
    (cutOff.engineOf (.text "main")).handle = some 0 ∧ Unreadable (content 0 cutOff) ∧
      (cutOff.engineOf (.text "main")).spec.kind = .text "function" ∧
      (restore (.text "main") cutOff).1 = .ok () ∧
      ((restore (.text "main") cutOff).2.engineOf (.text "main")).spec.kind = .text "all" := by
  have hbefore : ((cutOff.engineOf (.text "main")).spec.kind == .text "function") = true := by
    decide +kernel
  have hafter : (((restore (.text "main") cutOff).2.engineOf (.text "main")).spec.kind ==
      .text "all") = true := by decide +kernel
  have hhandle : (cutOff.engineOf (.text "main")).handle = some 0 := by decide +kernel
  exact ⟨hhandle, unreadable_cutOff, (Value.beq_text_iff _ _).1 hbefore, by decide +kernel,
    (Value.beq_text_iff _ _).1 hafter⟩

end SymbolSieve.Session
