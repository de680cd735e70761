import SymbolSieve.Proofs.Engine.Durable

/-!
# What acts do to the document

An act changes the filters of one engine and stores them, or takes stored filters over, or writes
into the document, or does nothing to filters and document at all.  A document that cannot be read
stays as it is; every other one can be read after every act.

## What is here

* `Effect`: what an act can do; `step_cases` says that every act does one of these things.
* `fieldwise_step`: what is known of the filters of all engines stays known.
* `document_step`: the document after an act; `contents_step_of_error`, a document that cannot be
  read.
-/

set_option autoImplicit false

namespace SymbolSieve.Session

open Query

variable {key : String} {v : View} {P : Field → Value → Prop}

/-- The document that is stored. -/
def View.document (v : View) : Except ValueFault Entries :=
  Document.read (v.desk.contents Vocabulary.stateKey)

/-- Filters that a document holds are taken over. -/
theorem restore_of_holds {doc : Entries} {s : Spec} (hread : v.document = .ok doc)
    (hholds : Document.Holds doc s) (name : String) : v.restore name =
      (.ok (), v.write name (View.restored s.durableEntries Field.durable (v.specs name))) := by
  rw [View.document] at hread
  rw [Document.Holds] at hholds
  rw [View.restore, hread]
  dsimp only
  rw [hholds]

/-- Nothing is taken over from a document that cannot be read. -/
theorem restore_of_error {fault : ValueFault} (hread : v.document = .error fault) (name : String) :
    v.restore name = (.error fault, v) := by
  rw [View.document] at hread
  rw [View.restore, hread]

/-- Taking filters over leaves the storage alone. -/
theorem desk_restore (v : View) (name : String) : (v.restore name).2.desk = v.desk := by
  rw [View.restore]
  split
  · rfl
  · dsimp only
    split <;> rfl

/-! ## Cases -/

theorem contents_addView_of_ne {other : String} (name query : String) (d : Desk.View)
    (h : other ≠ key) :
    (PresetStore.addView key name query d).2.contents other = d.contents other := by
  rw [PresetStore.addView]
  split
  · rfl
  · rfl
  · exact Desk.View.contents_put_of_ne _ _ h

theorem contents_removeView_of_ne {other : String} (id : Value) (d : Desk.View) (h : other ≠ key) :
    (PresetStore.removeView key id d).2.contents other = d.contents other := by
  rw [PresetStore.removeView]
  split
  · rfl
  · exact Desk.View.contents_put_of_ne _ _ h

/-- What an act can do. -/
inductive Effect (key : String) (v : View) (a : Act) : Prop
  /-- It comes down to a change of filters. -/
  | change (e : String) (c : Change) (hchange : a.change? v = some (e, c))
      (hstep : v.step key a = (v.change e c).2)
  /-- It takes stored filters over. -/
  | restore (e : String) (hact : a = .restore e)
  /-- It writes into the document. -/
  | write (path : String) (value : Value) (hact : a = .write path value)
  /-- It adds a preset. -/
  | add (name query : String) (hchange : a.change? v = none) (hwrite : a.isWrite = false)
      (hstep : v.step key a = { v with desk := (PresetStore.addView key name query v.desk).2 })
  | remove (id : String) (hact : a = .removePreset id)
  | store (ps : List Preset) (hact : a = .storePresets ps)
  | clock (clock : Except ValueFault Int) (hact : a = .setClock clock)
  /-- It does nothing that can be seen. -/
  | nothing (hchange : a.change? v = none) (hwrite : a.isWrite = false) (hstep : v.step key a = v)

/-- **Every act does one of these things.** -/
theorem effect (key : String) (v : View) (a : Act) : Effect key v a := by
  cases hchange : a.change? v with
  | some ec => exact .change ec.1 ec.2 hchange (step_of_change hchange)
  | none =>
    cases a with
    | change e c => cases hchange
    | applyPreset e p => cases hchange
    | toggle e fields =>
      refine .nothing hchange rfl ?_
      rw [View.step, View.toggleQuick]
      cases htoggle : (v.specs e).quickToggle fields with
      | error fault => rfl
      | ok es => simp [Act.change?, htoggle, Except.toOption] at hchange
    | bucket e choice =>
      refine .nothing hchange rfl ?_
      rw [View.step, View.selectBucket]
      cases hbucket : Spec.bucket? choice with
      | none => rfl
      | some b => simp [Act.change?, hbucket] at hchange
    | restore e => exact .restore e rfl
    | savePreset e name =>
      have hstep : v.step key (.savePreset e name) = (v.savePreset e key name).2 := rfl
      rw [View.savePreset] at hstep
      split at hstep
      · exact .nothing hchange rfl hstep
      · split at hstep
        · exact .nothing hchange rfl hstep
        · exact .add _ _ hchange rfl hstep
    | addPreset name query => exact .add name query hchange rfl rfl
    | removePreset id => exact .remove id rfl
    | storePresets ps => exact .store ps rfl
    | getPreset id => exact .nothing hchange rfl rfl
    | listPresets => exact .nothing hchange rfl rfl
    | write path value => exact .write path value rfl
    | setClock clock => exact .clock clock rfl

/-- An act that neither changes filters nor takes them over, and does not write into the document,
leaves the filters alone and whatever is not stored under the key of presets. -/
theorem step_cases (key : String) (v : View) (a : Act) :
    (∃ e c, a.change? v = some (e, c) ∧ v.step key a = (v.change e c).2) ∨
    (∃ e, a = .restore e) ∨ (∃ path value, a = .write path value) ∨
    (a.change? v = none ∧ a.isWrite = false ∧ ∃ d, v.step key a = { v with desk := d } ∧
      ∀ other, other ≠ key → d.contents other = v.desk.contents other) := by
  cases effect key v a with
  | change e c hchange hstep => exact .inl ⟨e, c, hchange, hstep⟩
  | restore e hact => exact .inr (.inl ⟨e, hact⟩)
  | write path value hact => exact .inr (.inr (.inl ⟨path, value, hact⟩))
  | add name query hchange hwrite hstep =>
    exact .inr (.inr (.inr ⟨hchange, hwrite, _, hstep,
      fun other => contents_addView_of_ne name query v.desk⟩))
  | remove id hact =>
    subst hact
    exact .inr (.inr (.inr ⟨rfl, rfl, _, rfl, fun other => contents_removeView_of_ne _ v.desk⟩))
  | store ps hact =>
    subst hact
    exact .inr (.inr (.inr ⟨rfl, rfl, _, rfl, fun other => Desk.View.contents_put_of_ne _ v.desk⟩))
  | clock clock hact =>
    subst hact
    exact .inr (.inr (.inr ⟨rfl, rfl, _, rfl, fun _ _ => rfl⟩))
  | nothing hchange hwrite hstep =>
    exact .inr (.inr (.inr ⟨hchange, hwrite, v.desk, hstep, fun _ _ => rfl⟩))

/-! ## Filters -/

/-- A change that keeps to a property is made and stored. -/
theorem exists_change (hP : ∀ f v, Admits f v → P f v) {e : String} {c : Change} (hc : c.Within P)
    (he : (v.specs e).Fieldwise P) :
    ∃ spec : Spec, spec.Fieldwise P ∧ v.change e c = (v.write e spec).persist e := by
  obtain ⟨spec, hspec, hfields⟩ := hc.exists_apply hP he
  exact ⟨spec, hfields, by rw [View.change, hspec]⟩

/-- **What is known of all filters** stays known, if it is known of filters with stored fields. -/
theorem fieldwise_step (key : String) (hP : ∀ f v, Admits f v → P f v)
    (hrestored : ∀ doc stored, v.document = .ok doc →
      Assoc.get? "filters" doc = some (.map stored) → ∀ t : Spec, t.Fieldwise P →
        (View.restored stored Field.durable t).Fieldwise P)
    (hv : ∀ name, (v.specs name).Fieldwise P) {a : Act} (ha : a.Within P) (name : String) :
    ((v.step key a).specs name).Fieldwise P := by
  have hwrite : ∀ (e : String) (spec : Spec), spec.Fieldwise P →
      ((v.write e spec).specs name).Fieldwise P := by
    intro e spec hspec
    by_cases hname : name = e
    · rw [hname, View.specs_write_self]
      exact hspec
    · rw [View.specs_write_of_ne spec v hname]
      exact hv name
  rcases step_cases key v a with ⟨e, c, hchange, hstep⟩ | ⟨e, rfl⟩ | ⟨path, value, rfl⟩ |
    ⟨-, -, d, hstep, -⟩
  · obtain ⟨spec, hspec, heq⟩ := exists_change hP (ha.change hP hchange) (hv e)
    rw [hstep, heq]
    exact hwrite e spec hspec
  · rw [View.step, View.restore]
    split
    · exact hv name
    next doc hread =>
      dsimp only
      split
      next stored hstored => exact hwrite e _ (hrestored doc stored hread hstored _ (hv e))
      next => exact hv name
  · exact hv name
  · rw [hstep]
    exact hv name

/-! ## The document -/

/-- A document that cannot be read stays as it is. -/
theorem contents_step_of_error (hkey : key ≠ Vocabulary.stateKey) {fault : ValueFault}
    (hread : v.document = .error fault) (a : Act) :
    (v.step key a).desk.contents Vocabulary.stateKey = v.desk.contents Vocabulary.stateKey := by
  rcases step_cases key v a with ⟨e, c, -, hstep⟩ | ⟨e, rfl⟩ | ⟨path, value, rfl⟩ |
    ⟨-, -, d, hstep, hcontents⟩
  · rw [hstep, View.change]
    split
    · rfl
    next spec _ =>
      dsimp only [View.persist, View.desk_write]
      rw [Document.updateView_of_error _ _ hread]
  · rw [View.step, restore_of_error hread]
  · simp only [View.step, Document.updateView_of_error path value hread]
  · rw [hstep]
    exact hcontents _ hkey.symm

/-- **The document after an act**: it can be read, only writing changes anything in it but the
filters, a change of filters is stored, and every other act leaves the filters that it holds. -/
theorem document_step (hkey : key ≠ Vocabulary.stateKey) {doc : Entries}
    (hread : v.document = .ok doc) (hv : ∀ name, (v.specs name).Fieldwise Storable) {a : Act}
    (ha : a.Within Storable) :
    ∃ doc', (v.step key a).document = .ok doc' ∧
      (a.isWrite = false → ∀ k, k ≠ "filters" → Assoc.get? k doc' = Assoc.get? k doc) ∧
      (∀ e, a.mutated? = some e → Document.Holds doc' ((v.step key a).specs e)) ∧
      (a.mutated? = none → ∀ s : Spec, s.Fieldwise Storable → Document.Holds doc s →
        Document.Holds doc' s) := by
  rw [ha.mutated?_eq v]
  rcases step_cases key v a with ⟨e, c, hchange, hstep⟩ | ⟨e, rfl⟩ | ⟨path, value, rfl⟩ |
    ⟨hchange, hwrite, d, hstep, hcontents⟩
  · obtain ⟨spec, hspec, heq⟩ :=
      exists_change storable_of_admits (ha.change storable_of_admits hchange) (hv e)
    have hread' : Document.read ((v.write e spec).desk.contents Vocabulary.stateKey) = .ok doc :=
      hread
    obtain ⟨t, doc', hdesk, -, hread'', hholds, hframe⟩ := Document.updateView_filters hread'
      (faithful_of_storable hspec)
    have hspecs : (v.step key a).specs e = spec := by
      rw [hstep, heq]
      exact View.specs_write_self ..
    refine ⟨doc', ?_, fun _ => hframe, fun e' he' => ?_, fun hnone => ?_⟩
    · rw [hstep, heq, View.document, View.persist]
      dsimp only
      rw [View.specs_write_self, hdesk, Desk.View.contents_put_self]
      exact hread''
    · obtain rfl : e = e' := by simpa [hchange] using he'
      rwa [hspecs]
    · simp [hchange] at hnone
  · refine ⟨doc, ?_, fun _ _ _ => rfl, fun e' he' => ?_, fun _ _ _ => id⟩
    · rw [View.step, View.document, desk_restore]
      exact hread
    · cases he'
  · obtain ⟨doc', hread', hholds⟩ := Document.updateView_elsewhere hread path value
    refine ⟨doc', hread', fun hwrite => ?_, fun e' he' => ?_, fun _ => hholds ha⟩
    · cases hwrite
    · cases he'
  · refine ⟨doc, ?_, fun _ _ _ => rfl, fun e' he' => ?_, fun _ _ _ => id⟩
    · rw [hstep, View.document, hcontents _ hkey.symm]
      exact hread
    · simp [hchange] at he'

end SymbolSieve.Session
