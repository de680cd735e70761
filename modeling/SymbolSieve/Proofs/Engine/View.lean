import Mathlib.Logic.Function.Basic
import SymbolSieve.Engine.Session
import SymbolSieve.Proofs.Presets.Stored

/-!
# Sessions seen from outside

As long as nobody listens, nothing matters of the engines but their filters, and nothing of the rest
of a session but what matters of its desk.  Every operation of an engine is then a function on that.

## What is here

* `Session.View`, `Session.Good`: what matters of a session, and the sessions on healthy storage in
  which nobody listens.
* `View.persist`, `change`, `restore`, `savePreset`: the operations as functions on views.
* `simulates_change`, `simulates_restore`, `simulates_savePreset`: these are what the operations do.
-/

set_option autoImplicit false

namespace SymbolSieve

/-- What matters of a session: the filters of every engine, and what matters of the desk. -/
structure Session.View where
  specs : String → Spec
  desk : Desk.View

namespace Session

/-- What matters of a session. -/
def view (s : Session) : View where
  specs := fun name => (s.engineOf (.text name)).spec
  desk := s.desk.view

theorem specs_view (s : Session) (name : String) :
    s.view.specs name = (s.engineOf (.text name)).spec := rfl

/-- A session on healthy storage that all engines use, and in which nobody listens. -/
structure Good (h : Handle) (s : Session) : Prop where
  desk : Desk.Good h s.desk
  handle : s.handle = some h
  engine : ∀ name : String,
    s.engineOf (.text name) = { handle := some h, spec := s.view.specs name, listeners := [] }

/-- A session without engines and listeners is good if its storage is healthy. -/
theorem good_of_engines_eq_nil {h : Handle} {s : Session} (hs : Storage.Healthy h s.desk.storage)
    (hhandle : s.handle = some h) (hengines : s.engines = []) : Good h s where
  desk := hs
  handle := hhandle
  engine name := by simp [engineOf, view, hengines, hhandle, Assoc.get?]

/-- Where there are no engines yet, every engine begins with the default filters. -/
theorem specs_of_engines_eq_nil {s : Session} (hengines : s.engines = []) (name : String) :
    s.view.specs name = .unconstrained := by
  simp only [view, engineOf, hengines]
  rfl

/-- A session in which nothing was done yet, on memory that holds some texts. -/
def onMemory (texts : List (String × String)) : Session where
  desk := { storage := .memory { items := texts.map fun e => (.text e.1, .text e.2) } }
  handle := some 0

theorem healthy_onMemory (texts : List (String × String)) :
    Storage.Healthy 0 (onMemory texts).desk.storage := ⟨fun _ => rfl, fun _ => rfl⟩

/-! ## Operations on views -/

namespace View

/-- Other filters for an engine. -/
def write (name : String) (spec : Spec) (v : View) : View :=
  { v with specs := Function.update v.specs name spec }

@[simp] theorem specs_write_self (name : String) (spec : Spec) (v : View) :
    (v.write name spec).specs name = spec := Function.update_self ..

theorem specs_write_of_ne {name other : String} (spec : Spec) (v : View) (h : other ≠ name) :
    (v.write name spec).specs other = v.specs other := Function.update_of_ne h ..

@[simp] theorem desk_write (name : String) (spec : Spec) (v : View) :
    (v.write name spec).desk = v.desk := rfl

@[simp] theorem write_specs (name : String) (v : View) : v.write name (v.specs name) = v := by
  rw [write, Function.update_eq_self]

@[simp] theorem write_write (name : String) (s t : Spec) (v : View) :
    (v.write name s).write name t = v.write name t := by
  simp [write]

/-- What storing the durable fields of an engine makes of a view. -/
def persist (name : String) (v : View) : Except ValueFault Unit × View :=
  let r := Document.updateView "filters" (.map (v.specs name).durableEntries) v.desk
  (Desk.reported r.1, { v with desk := r.2 })

/-- What a change of the filters of an engine makes of a view. -/
def change (name : String) (c : Change) (v : View) : Except ValueFault Unit × View :=
  match c.apply (v.specs name) with
  | .error fault => (.error fault, v)
  | .ok spec => (v.write name spec).persist name

/-- The filters after stored entries have been taken over into some fields. -/
def restored (stored : Entries) (fs : List Field) (s : Spec) : Spec :=
  fs.foldl (fun s f => (restoreField stored s f).1) s

/-- What taking over the stored fields into an engine makes of a view. -/
def restore (name : String) (v : View) : Except ValueFault Unit × View :=
  match Document.read (v.desk.contents Vocabulary.stateKey) with
  | .error fault => (.error fault, v)
  | .ok doc => (.ok (), match Assoc.get? "filters" doc with
    | some (.map stored) => v.write name (restored stored Field.durable (v.specs name))
    | _ => v)

/-- What pressing a quick filter makes of a view. -/
def toggleQuick (name : String) (fields : Entries) (v : View) : Except ValueFault Unit × View :=
  match (v.specs name).quickToggle fields with
  | .error fault => (.error fault, v)
  | .ok entries => v.change name (.update entries)

/-- What choosing a bucket makes of a view. -/
def selectBucket (name choice : String) (v : View) : Except ValueFault Unit × View :=
  match Spec.bucket? choice with
  | none => (.ok (), v)
  | some b => v.change name (.update (Spec.bucketEntries b))

/-- What saving the filters of an engine as a preset makes of a view. -/
def savePreset (name key presetName : String) (v : View) :
    Except ValueFault (Option Preset) × View :=
  match Query.canonical (v.specs name) with
  | .error fault => (.error fault, v)
  | .ok query =>
    if query.isEmpty || (Text.trim presetName).isEmpty then (.ok none, v)
    else
      let r := PresetStore.addView key (Text.trim presetName) query v.desk
      (r.1.map some, { v with desk := r.2 })

end View

/-! ## Engines -/

variable {h : Handle}

theorem simulates_onDesk {α : Type} {op : StateM Desk α} {f : Desk.View → α × Desk.View}
    (hop : Simulates (Desk.Good h) Desk.view op f) :
    Simulates (Good h) view (onDesk op)
      fun v => ((f v.desk).1, { v with desk := (f v.desk).2 }) := by
  intro s hs
  obtain ⟨hgood, heq⟩ := hop s.desk hs.desk
  refine ⟨⟨hgood, hs.handle, hs.engine⟩, ?_⟩
  dsimp only [view]
  rw [heq]
  rfl

theorem simulates_report (level : LogLevel) (message : String) :
    Simulates (Good h) view (report level message) fun v => ((), v) :=
  simulates_onDesk (Desk.simulates_report level "filters" message)

/-- An operation that begins with a look at an engine. -/
theorem simulates_engine {α : Type} (name : String) {k : Engine → StateM Session α}
    {g : Spec → View → α × View}
    (hk : ∀ spec,
      Simulates (Good h) view (k { handle := some h, spec, listeners := [] }) (g spec)) :
    Simulates (Good h) view (engine (.text name) >>= k) fun v => g (v.specs name) v := by
  intro s hs
  have hrun : (engine (.text name) >>= k) s = k (s.engineOf (.text name)) s := rfl
  rw [hrun, hs.engine name]
  exact hk _ s hs

/-- An operation that begins with a look at the storage of engines that are still to come. -/
theorem simulates_handle {α : Type} {k : Session → StateM Session α} {f : View → α × View}
    (hk : ∀ s, s.handle = some h → Simulates (Good h) view (k s) f) :
    Simulates (Good h) view (get >>= k) f :=
  fun s hs => hk s hs.handle s hs

/-- Another engine in place of one does not disturb an engine under a text, whatever the other one
is known under. -/
theorem engineOf_text_setEngine (key : Value) (other : String) (e : Engine) (s : Session) :
    (setEngine key e s).2.engineOf (.text other) =
      if key == .text other then e else s.engineOf (.text other) := by
  have hget : (setEngine key e s).2.engineOf (.text other) =
      (Assoc.get? (.text other) (Assoc.put key e s.engines)).getD { handle := s.handle } := rfl
  rw [hget, Assoc.get?_text_put]
  cases hother : key == .text other <;> simp [engineOf]

theorem engineOf_setEngine (name other : String) (e : Engine) (s : Session) :
    (setEngine (.text name) e s).2.engineOf (.text other) =
      if other = name then e else s.engineOf (.text other) := by
  rw [engineOf_text_setEngine]
  simp only [Value.beq_text_iff, Value.text.injEq, @eq_comm _ name]

theorem simulates_setEngine (name : String) (spec : Spec) :
    Simulates (Good h) view (setEngine (.text name) { handle := some h, spec, listeners := [] })
      fun v => ((), v.write name spec) := by
  intro s hs
  generalize hafter : (setEngine (.text name) { handle := some h, spec, listeners := [] } s).2 = t
  have hspecs : t.view.specs = (s.view.write name spec).specs := by
    funext other
    simp only [← hafter, view, engineOf_setEngine, View.write, Function.update_apply]
    split <;> rfl
  have hdesk : t.desk = s.desk := by rw [← hafter]; rfl
  refine ⟨⟨hdesk ▸ hs.desk, by rw [← hafter]; exact hs.handle, fun other => ?_⟩, ?_⟩
  · rw [hspecs, ← hafter, engineOf_setEngine, hs.engine other]
    by_cases hother : other = name
    · rw [if_pos hother, hother, View.specs_write_self]
    · rw [if_neg hother, View.specs_write_of_ne _ _ hother]
  · have hview : t.view = s.view.write name spec := by
      refine (congrArg (View.mk · t.view.desk) hspecs).trans ?_
      exact congrArg (View.mk _) (congrArg Desk.view hdesk)
    rw [hview]

/-! ## Changes -/

theorem simulates_persist (name : String) :
    Simulates (Good h) view (persist (.text name)) (View.persist name) := by
  refine (simulates_engine name fun spec =>
    (simulates_onDesk (Document.simulates_update "filters" (.map spec.durableEntries))).bind
      (g := fun r v => (Desk.reported r, v)) fun r => ?_).congr fun v => rfl
  rcases r with (e | fault) | _
  · exact (simulates_report _ _).bind fun _ => .pure _
  · exact .pure _
  · exact .pure _

/-- What a change makes of the filters alone. -/
theorem simulates_alter (name : String) (c : Change) :
    Simulates (Good h) view (alter (.text name) c) fun v => match c.apply (v.specs name) with
      | .error fault => (.error fault, v)
      | .ok spec => (.ok (), v.write name spec) := by
  have happly : ∀ spec, Simulates (Good h) view
      (match c.apply spec with
        | .error fault => pure (.error fault)
        | .ok spec => do
          setEngine (.text name) { handle := some h, spec, listeners := [] }
          return .ok () : StateM Session (Except ValueFault Unit))
      fun v => match c.apply spec with
        | .error fault => (.error fault, v)
        | .ok spec => (.ok (), v.write name spec) := by
    intro spec
    cases c.apply spec with
    | error fault => exact .pure _
    | ok spec => exact (simulates_setEngine name spec).bind fun _ => .pure _
  refine simulates_engine name (g := fun spec v => match c.apply spec with
    | .error fault => (Except.error fault, v)
    | .ok spec => (Except.ok (), v.write name spec)) fun spec => ?_
  dsimp only
  split
  · exact happly spec
  · exact (simulates_report _ _).bind fun _ => happly spec

/-- **A change** of the filters of an engine. -/
theorem simulates_change (name : String) (c : Change) :
    Simulates (Good h) view (change (.text name) c) (View.change name c) := by
  have hwithin : ∀ n, Simulates (Good h) view (changeWithin (n + 1) (.text name) c)
      (View.change name c) := by
    intro n
    refine ((simulates_alter name c).bind (g := fun r v => match r with
      | .error fault => (.error fault, v)
      | .ok _ => v.persist name) fun r => ?_).congr fun v => ?_
    · rcases r with fault | _
      · exact .pure _
      · refine ((simulates_persist name).bind (g := fun r v => (r, v)) fun r => ?_).congr
          fun v => rfl
        rcases r with fault | _
        · exact .pure _
        · exact simulates_engine name (g := fun _ v => (Except.ok (), v)) fun spec =>
            (Simulates.pure ()).bind fun _ => .pure _
    · rw [View.change]
      cases c.apply (v.specs name) <;> rfl
  intro s hs
  exact hwithin s.pending s hs

/-! ## Storage -/

theorem simulates_restoreFields (name : String) (stored : Entries) (fs : List Field) :
    Simulates (Good h) view (restoreFields (.text name) stored fs)
      fun v => ((), v.write name (View.restored stored fs (v.specs name))) := by
  induction fs with
  | nil => exact (Simulates.pure ()).congr fun v => by simp [View.restored]
  | cons f fs ih =>
    refine (simulates_engine name (g := fun spec v => ((),
      (v.write name (restoreField stored spec f).1).write name
        (View.restored stored fs (restoreField stored spec f).1))) fun spec => ?_).congr
        fun v => by simp [View.restored]
    generalize restoreField stored spec f = r
    obtain ⟨spec', complaint⟩ := r
    refine ((simulates_setEngine name spec').bind (g := fun _ v => ((),
      v.write name (View.restored stored fs (v.specs name)))) fun _ => ?_).congr fun v => by simp
    cases complaint with
    | none => exact ih
    | some message => exact (simulates_report _ _).bind fun _ => ih

/-- **Taking over** the stored fields. -/
theorem simulates_restore (name : String) :
    Simulates (Good h) view (restore (.text name)) (View.restore name) := by
  refine (simulates_engine name fun _ => (simulates_onDesk Document.simulates_load).bind
    (g := fun r v => match r with
      | .error fault => (Except.error fault, v)
      | .ok doc => (Except.ok (), match Assoc.get? "filters" doc with
        | some (.map stored) => v.write name (View.restored stored Field.durable (v.specs name))
        | _ => v)) fun r => ?_).congr fun v => ?_
  · cases r with
    | error fault => exact .pure _
    | ok doc =>
      dsimp only
      cases Assoc.get? "filters" doc with
      | none => exact .pure _
      | some found =>
        cases found with
        | map stored => exact (simulates_restoreFields name stored _).bind fun _ => .pure _
        | _ => exact .pure _
  · rw [View.restore]

/-! ## Presets and menus -/

theorem simulates_applyPreset (name : String) (p : Preset) :
    Simulates (Good h) view (applyPreset (.text name) (some p))
      (View.change name (.query (.text p.query))) :=
  (simulates_report _ _).bind fun _ => simulates_change name _

theorem simulates_toggleQuick (name : String) (fields : Entries) :
    Simulates (Good h) view (toggleQuick (.text name) fields) (View.toggleQuick name fields) := by
  refine simulates_engine name (g := fun spec v => match spec.quickToggle fields with
    | .error fault => (Except.error fault, v)
    | .ok entries => v.change name (.update entries)) fun spec => ?_
  cases spec.quickToggle fields with
  | error fault => exact .pure _
  | ok entries => exact simulates_change name _

theorem simulates_selectBucket (name choice : String) :
    Simulates (Good h) view (selectBucket (.text name) (.text choice))
      (View.selectBucket name choice) := by
  have hchoice : ¬ (!(Value.text choice).isKey) = true := Bool.false_ne_true
  rw [selectBucket, if_neg hchoice]
  unfold View.selectBucket
  cases Spec.bucket? choice with
  | some b => exact simulates_change name _
  | none => exact (simulates_report _ _).bind fun _ => .pure _

/-- **Saving** the filters as a preset. -/
theorem simulates_savePreset (name key presetName : String) :
    Simulates (Good h) view (savePreset (.text name) key (.text presetName))
      (View.savePreset name key presetName) := by
  refine simulates_engine name (g := fun spec v => match Query.canonical spec with
    | .error fault => (.error fault, v)
    | .ok query =>
      if query.isEmpty || (Text.trim presetName).isEmpty then (.ok none, v)
      else
        let r := PresetStore.addView key (Text.trim presetName) query v.desk
        (r.1.map some, { v with desk := r.2 })) fun spec => ?_
  cases Query.canonical spec with
  | error fault => exact .pure _
  | ok query =>
    dsimp only
    cases hquery : query.isEmpty with
    | true => exact (simulates_report _ _).bind fun _ => .pure _
    | false =>
      cases hname : presetName.isEmpty with
      | true =>
        obtain rfl := String.isEmpty_iff.1 hname
        exact .pure _
      | false =>
        simp only [Value.truthy, hname]
        cases (Text.trim presetName).isEmpty with
        | true => exact .pure _
        | false =>
          refine simulates_handle fun s hhandle => ?_
          rw [hhandle]
          exact (simulates_onDesk (PresetStore.simulates_add key (Text.trim presetName) query)).bind
            fun r => .pure (r.map some)

end Session

end SymbolSieve
