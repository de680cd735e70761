import SymbolSieve.Proofs.Engine.View

/-!
# Runs of a session

Engines and a list of presets that share a storage are used in any order.  Whatever fails ends only
the act in which it fails, so a run goes on with what was done so far.

## What is here

* `Act`: what can be done in a session, and `run`: acts one after the other.
* `View.step`, `simulates_run`: what an act makes of a view, and a run seen from outside; `view_run`
  is what is seen after it.
* `Act.change?`: the change of filters that an act comes down to, if it comes down to one;
  `step_of_change` says that it does nothing else.
* `specs_step_of_ne`: an act leaves the other engines alone.
-/

set_option autoImplicit false

namespace SymbolSieve.Session

/-! ## Acts -/

/-- What can be done in a session. -/
inductive Act where
  | change (engine : String) (c : Change)
  | toggle (engine : String) (fields : Entries)
  | bucket (engine choice : String)
  | applyPreset (engine : String) (p : Preset)
  | restore (engine : String)
  | savePreset (engine name : String)
  | addPreset (name query : String)
  | removePreset (id : String)
  | storePresets (ps : List Preset)
  | getPreset (id : String)
  | listPresets
  /-- A value is written at a path of the document. -/
  | write (path : String) (value : Value)
  | setClock (clock : Except ValueFault Int)

/-- An operation of which only what it does matters. -/
def act {α : Type} (op : StateM Session α) : StateM Session Unit := op >>= fun _ => pure ()

/-- Does something, with the presets under a key. -/
def perform (h : Handle) (key : String) : Act → StateM Session Unit
  | .change e c => act (change (.text e) c)
  | .toggle e fields => act (toggleQuick (.text e) fields)
  | .bucket e choice => act (selectBucket (.text e) (.text choice))
  | .applyPreset e p => act (applyPreset (.text e) (some p))
  | .restore e => act (restore (.text e))
  | .savePreset e name => act (savePreset (.text e) key (.text name))
  | .addPreset name query => act (onDesk (PresetStore.add h key name query).run)
  | .removePreset id => act (onDesk (PresetStore.remove h key (.text id)).run)
  | .storePresets ps => act (onDesk (PresetStore.save h key ps).run)
  | .getPreset id => act (onDesk (PresetStore.get h key (.text id)).run)
  | .listPresets => act (onDesk (PresetStore.load h key).run)
  | .write path value => act (onDesk (Document.update h path value).run)
  | .setClock clock => modify fun s => { s with desk := { s.desk with clock } }

/-- Does one thing after the other. -/
def run (h : Handle) (key : String) : List Act → StateM Session Unit
  | [] => pure ()
  | a :: as => do
    perform h key a
    run h key as

/-! ## Acts on views -/

/-- What an act makes of a view. -/
def View.step (key : String) (v : View) : Act → View
  | .change e c => (v.change e c).2
  | .toggle e fields => (v.toggleQuick e fields).2
  | .bucket e choice => (v.selectBucket e choice).2
  | .applyPreset e p => (v.change e (.query (.text p.query))).2
  | .restore e => (v.restore e).2
  | .savePreset e name => (v.savePreset e key name).2
  | .addPreset name query => { v with desk := (PresetStore.addView key name query v.desk).2 }
  | .removePreset id => { v with desk := (PresetStore.removeView key (.text id) v.desk).2 }
  | .storePresets ps => { v with desk := v.desk.put key (PresetStore.listText ps) }
  | .getPreset _ | .listPresets => v
  | .write path value => { v with desk := (Document.updateView path value v.desk).2 }
  | .setClock clock => { v with desk := { v.desk with clock } }

variable {h : Handle} {key : String}

theorem simulates_act {α : Type} {op : StateM Session α} {f : View → α × View}
    (hop : Simulates (Good h) view op f) :
    Simulates (Good h) view (act op) fun v => ((), (f v).2) :=
  hop.bind fun _ => .pure ()

theorem simulates_perform (h : Handle) (key : String) (a : Act) :
    Simulates (Good h) view (perform h key a) fun v => ((), v.step key a) := by
  cases a with
  | change e c => exact simulates_act (simulates_change e c)
  | toggle e fields => exact simulates_act (simulates_toggleQuick e fields)
  | bucket e choice => exact simulates_act (simulates_selectBucket e choice)
  | applyPreset e p => exact simulates_act (simulates_applyPreset e p)
  | restore e => exact simulates_act (simulates_restore e)
  | savePreset e name => exact simulates_act (simulates_savePreset e key name)
  | addPreset name query =>
    exact simulates_act (simulates_onDesk (PresetStore.simulates_add key name query))
  | removePreset id =>
    exact simulates_act (simulates_onDesk (PresetStore.simulates_remove key (.text id)))
  | storePresets ps => exact simulates_act (simulates_onDesk (PresetStore.simulates_save key ps))
  | getPreset id =>
    exact simulates_act (simulates_onDesk (PresetStore.simulates_get key (.text id)))
  | listPresets => exact simulates_act (simulates_onDesk (PresetStore.simulates_load key))
  | write path value =>
    exact simulates_act (simulates_onDesk (Document.simulates_update path value))
  | setClock clock => exact fun s hs => ⟨⟨hs.desk, hs.handle, hs.engine⟩, rfl⟩

/-- **A run** seen from outside. -/
theorem simulates_run (as : List Act) :
    Simulates (Good h) view (run h key as) fun v => ((), as.foldl (View.step key) v) := by
  induction as with
  | nil => exact .pure ()
  | cons a as ih => exact (simulates_perform h key a).bind fun _ => ih

theorem good_run {s : Session} (key : String) (hs : Good h s) (as : List Act) :
    Good h (run h key as s).2 :=
  (simulates_run as).good_after hs

theorem view_run {s : Session} (hs : Good h s) (as : List Act) :
    (run h key as s).2.view = as.foldl (View.step key) s.view :=
  (simulates_run as).view_after hs

/-! ## What acts come down to -/

namespace Act

/-- The change of filters that an act comes down to, and the engine that makes it. -/
def change? (v : View) : Act → Option (String × Change)
  | change e c => some (e, c)
  | toggle e fields => ((v.specs e).quickToggle fields).toOption.map fun es => (e, .update es)
  | bucket e choice => (Spec.bucket? choice).map fun b => (e, .update (Spec.bucketEntries b))
  | applyPreset e p => some (e, .query (.text p.query))
  | _ => none

/-- The engine that an act works on. -/
def engine? : Act → Option String
  | change e _ | toggle e _ | bucket e _ | applyPreset e _ | restore e | savePreset e _ => some e
  | _ => none

/-- Whether an act writes a value at a path of the document. -/
def isWrite : Act → Bool
  | write .. => true
  | _ => false

end Act

/-- An act that comes down to a change does nothing else. -/
theorem step_of_change {v : View} {a : Act} {e : String} {c : Change}
    (ha : a.change? v = some (e, c)) : v.step key a = (v.change e c).2 := by
  cases a with
  | change e' c' =>
    obtain ⟨rfl, rfl⟩ : e' = e ∧ c' = c := by simpa [Act.change?] using ha
    rfl
  | toggle e' fields =>
    rw [Act.change?] at ha
    rw [View.step, View.toggleQuick]
    cases htoggle : (v.specs e').quickToggle fields with
    | error fault => simp [htoggle, Except.toOption] at ha
    | ok es =>
      obtain ⟨rfl, rfl⟩ : e' = e ∧ Change.update es = c := by
        simpa [htoggle, Except.toOption] using ha
      rfl
  | bucket e' choice =>
    rw [Act.change?] at ha
    rw [View.step, View.selectBucket]
    cases hbucket : Spec.bucket? choice with
    | none => simp [hbucket] at ha
    | some b =>
      obtain ⟨rfl, rfl⟩ : e' = e ∧ Change.update (Spec.bucketEntries b) = c := by
        simpa [hbucket] using ha
      rfl
  | applyPreset e' p =>
    obtain ⟨rfl, rfl⟩ : e' = e ∧ Change.query (.text p.query) = c := by simpa [Act.change?] using ha
    rfl
  | _ => cases ha

/-- A change leaves the other engines alone. -/
theorem specs_change_of_ne {name other : String} (c : Change) (v : View) (hne : other ≠ name) :
    (v.change name c).2.specs other = v.specs other := by
  rw [View.change]
  cases c.apply (v.specs name) with
  | error fault => rfl
  | ok spec => exact View.specs_write_of_ne spec v hne

/-- **An act leaves the other engines alone.** -/
theorem specs_step_of_ne {v : View} {a : Act} {name : String} (ha : a.engine? ≠ some name) :
    (v.step key a).specs name = v.specs name := by
  have hne : ∀ e : String, some e ≠ some name → name ≠ e := fun e he heq => he (heq ▸ rfl)
  cases a with
  | change e c => exact specs_change_of_ne c v (hne e ha)
  | toggle e fields =>
    rw [View.step, View.toggleQuick]
    cases (v.specs e).quickToggle fields with
    | error fault => rfl
    | ok es => exact specs_change_of_ne _ v (hne e ha)
  | bucket e choice =>
    rw [View.step, View.selectBucket]
    cases Spec.bucket? choice with
    | none => rfl
    | some b => exact specs_change_of_ne _ v (hne e ha)
  | applyPreset e p => exact specs_change_of_ne _ v (hne e ha)
  | restore e =>
    rw [View.step, View.restore]
    split
    · rfl
    · dsimp only
      split
      · exact View.specs_write_of_ne _ v (hne e ha)
      · rfl
  | savePreset e presetName =>
    rw [View.step, View.savePreset]
    split
    · rfl
    · split <;> rfl
  | _ => rfl

theorem specs_run_of_ne (key : String) (v : View) {as : List Act} {name : String}
    (has : ∀ a ∈ as, a.engine? ≠ some name) :
    (as.foldl (View.step key) v).specs name = v.specs name := by
  induction as generalizing v with
  | nil => rfl
  | cons a as ih =>
    rw [List.foldl_cons, ih _ fun b hb => has b (by simp [hb])]
    exact specs_step_of_ne (has a (by simp))

end SymbolSieve.Session
