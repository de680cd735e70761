import SymbolSieve.Proofs.Engine.Steps

/-!
# The list of presets over a run

Presets are only touched by the acts on presets.  Adding one puts it at the end of the list,
removing takes those with an id out, and nothing else happens to the list unless another list is
stored in its place.  So a preset is found under its id until it is removed, and ids are never given
twice.

## What is here

* `Act.KeepsPresets`, `Act.removed?`: acts that do not replace the list, and the id of what one
  removes.
* `presets_step`: what an act makes of the list; `presets_step_of_error`, a list that cannot be
  read.
* `Reserved`: no preset has an id that is still to be drawn; `reserved_step` says that it stays so.
* `Finds`: a preset is found under its id; `finds_step` says that it is until it is removed.
-/

set_option autoImplicit false

namespace SymbolSieve.Session

open PresetStore

variable {key : String} {v : View}

/-! ## Acts -/

/-- An act that does not replace the list of presets, and leaves a clock that can be read. -/
def Act.KeepsPresets : Act → Prop
  | .storePresets _ => False
  | .setClock clock => ∃ ms, millisOf clock = .ok ms
  | _ => True

/-- The id of the presets that an act removes. -/
def Act.removed? : Act → Option String
  | .removePreset id => some id
  | _ => none

/-- Updating the document changes what is stored under one key, if it changes anything. -/
theorem updateView_cases (path : String) (value : Value) (d : Desk.View) :
    (Document.updateView path value d).2 = d ∨
      ∃ t, (Document.updateView path value d).2 = d.put Vocabulary.stateKey t := by
  rw [Document.updateView]
  split
  · exact .inl rfl
  · split
    · exact .inr ⟨_, rfl⟩
    · exact .inl rfl

theorem desk_change (v : View) (e : String) (c : Change) : (v.change e c).2.desk = v.desk ∨
    ∃ t, (v.change e c).2.desk = v.desk.put Vocabulary.stateKey t := by
  rw [View.change]
  split
  · exact .inl rfl
  · exact updateView_cases "filters" _ v.desk

/-- **What an act does to presets**: it leaves them and the count of ids alone, or adds a preset, or
removes some. -/
theorem desk_step_cases (hkey : key ≠ Vocabulary.stateKey) (v : View) {a : Act}
    (ha : a.KeepsPresets) :
    ((v.step key a).desk.contents key = v.desk.contents key ∧
      (v.step key a).desk.drawn = v.desk.drawn ∧
      ((v.step key a).desk.clock = v.desk.clock ∨
        ∃ ms, millisOf (v.step key a).desk.clock = .ok ms)) ∨
    (∃ name query, (v.step key a).desk = (addView key name query v.desk).2) ∨
    ∃ id, a = .removePreset id := by
  have hsame : ∀ w : View, w.desk = v.desk ∨ (∃ t, w.desk = v.desk.put Vocabulary.stateKey t) →
      w.desk.contents key = v.desk.contents key ∧ w.desk.drawn = v.desk.drawn ∧
        (w.desk.clock = v.desk.clock ∨ ∃ ms, millisOf w.desk.clock = .ok ms) := by
    rintro w (hw | ⟨t, hw⟩)
    · rw [hw]
      exact ⟨rfl, rfl, .inl rfl⟩
    · rw [hw]
      exact ⟨Desk.View.contents_put_of_ne t _ hkey, rfl, .inl rfl⟩
  cases effect key v a with
  | change e c _ hstep =>
    rw [hstep]
    exact .inl (hsame _ (desk_change v e c))
  | restore e hact =>
    subst hact
    exact .inl (hsame _ (.inl (desk_restore v e)))
  | write path value hact =>
    subst hact
    exact .inl (hsame _ (updateView_cases path value v.desk))
  | add name query _ _ hstep => exact .inr (.inl ⟨name, query, congrArg View.desk hstep⟩)
  | remove id hact => exact .inr (.inr ⟨id, hact⟩)
  | store ps hact =>
    subst hact
    exact ha.elim
  | clock clock hact =>
    subst hact
    exact .inl ⟨rfl, rfl, .inr ha⟩
  | nothing _ _ hstep => exact .inl (hsame _ (.inl (congrArg View.desk hstep)))

/-! ## The list -/

/-- A clock that can be read stays so. -/
theorem clock_step (hkey : key ≠ Vocabulary.stateKey) {a : Act} (ha : a.KeepsPresets)
    (hclock : ∃ ms, millisOf v.desk.clock = .ok ms) :
    ∃ ms, millisOf (v.step key a).desk.clock = .ok ms := by
  rcases desk_step_cases hkey v ha with ⟨-, -, hsame | hms⟩ | ⟨name, query, hdesk⟩ | ⟨id, rfl⟩
  · rwa [hsame]
  · exact hms
  · have hadd : (addView key name query v.desk).2.clock = v.desk.clock := by
      rw [addView]
      split <;> rfl
    rwa [hdesk, hadd]
  · have hremove : (removeView key (.text id) v.desk).2.clock = v.desk.clock := by
      rw [removeView]
      split <;> rfl
    rwa [View.step, hremove]

/-- Adding a preset to a list that can be read. -/
theorem addView_of_ok {name query : String} {d : Desk.View} {ps : List Preset} {ms : Int}
    (hps : presetsOf key (d.contents key) = .ok ps) (hms : millisOf d.clock = .ok ms) :
    addView key name query d = (.ok ⟨freshIdOf ms (d.drawn + 1), name, query⟩,
      ({ d with drawn := d.drawn + 1 } : Desk.View).put key
        (listText (ps ++ [⟨freshIdOf ms (d.drawn + 1), name, query⟩]))) := by
  rw [addView, hps, hms]

/-- **What an act makes of the list**: nothing else, one preset more at the end, or those with an id
less. -/
theorem presets_step (hkey : key ≠ Vocabulary.stateKey) {a : Act} (ha : a.KeepsPresets)
    {ps : List Preset} {ms : Int} (hps : presetsOf key (v.desk.contents key) = .ok ps)
    (hms : millisOf v.desk.clock = .ok ms) :
    ∃ ps', presetsOf key ((v.step key a).desk.contents key) = .ok ps' ∧
      ((ps' = ps ∧ (v.step key a).desk.drawn = v.desk.drawn) ∨
        (∃ name query, ps' = ps ++ [⟨freshIdOf ms (v.desk.drawn + 1), name, query⟩] ∧
          (v.step key a).desk.drawn = v.desk.drawn + 1) ∨
        ∃ id, a.removed? = some id ∧ ps' = ps.filter (fun p => p.id != id) ∧
          (v.step key a).desk.drawn = v.desk.drawn) := by
  rcases desk_step_cases hkey v ha with ⟨hcontents, hdrawn, -⟩ | ⟨name, query, hdesk⟩ | ⟨id, rfl⟩
  · exact ⟨ps, by rwa [hcontents], .inl ⟨rfl, hdrawn⟩⟩
  · rw [addView_of_ok hps hms] at hdesk
    rw [hdesk]
    refine ⟨_, ?_, .inr (.inl ⟨name, query, rfl, rfl⟩)⟩
    rw [Desk.View.contents_put_self, presetsOf_listText]
  · have hstep : (v.step key (.removePreset id)).desk =
        v.desk.put key (listText (ps.filter fun p => p.id != id)) := by
      rw [View.step, removeView, hps]
      simp only [Preset.hasId_text]
      rfl
    rw [hstep]
    refine ⟨ps.filter fun p => p.id != id, ?_, .inr (.inr ⟨id, rfl, rfl, rfl⟩)⟩
    rw [Desk.View.contents_put_self, presetsOf_listText]

/-- A list that cannot be read stays as it is. -/
theorem presets_step_of_error (hkey : key ≠ Vocabulary.stateKey) {a : Act} (ha : a.KeepsPresets)
    {fault : ValueFault} (hps : presetsOf key (v.desk.contents key) = .error fault) :
    presetsOf key ((v.step key a).desk.contents key) = .error fault := by
  rcases desk_step_cases hkey v ha with ⟨hcontents, -⟩ | ⟨name, query, hdesk⟩ | ⟨id, rfl⟩
  · rwa [hcontents]
  · rw [hdesk, addView, hps]
    exact hps
  · rw [View.step, removeView, hps]
    exact hps

/-! ## Ids -/

/-- No preset has an id that is still to be drawn. -/
def Reserved (key : String) (v : View) : Prop :=
  ∀ ps, presetsOf key (v.desk.contents key) = .ok ps →
    ∀ p ∈ ps, ∀ ms n, v.desk.drawn < n → p.id ≠ freshIdOf ms n

theorem reserved_step (hkey : key ≠ Vocabulary.stateKey) {a : Act} (ha : a.KeepsPresets) {ms : Int}
    (hms : millisOf v.desk.clock = .ok ms) (h : Reserved key v) : Reserved key (v.step key a) := by
  intro qs hqs
  cases hps : presetsOf key (v.desk.contents key) with
  | error fault =>
    rw [presets_step_of_error hkey ha hps] at hqs
    cases hqs
  | ok ps =>
    obtain ⟨ps', hps', hcases⟩ := presets_step hkey ha hps hms
    obtain rfl : ps' = qs := Except.ok.inj (hps'.symm.trans hqs)
    rcases hcases with ⟨rfl, hdrawn⟩ | ⟨name, query, rfl, hdrawn⟩ | ⟨id, -, rfl, hdrawn⟩
    · rw [hdrawn]
      exact h _ hps
    · rw [hdrawn]
      intro p hp ms' n hn heq
      rcases List.mem_append.1 hp with hold | hnew
      · exact h ps hps p hold ms' n (by omega) heq
      · obtain rfl := List.mem_singleton.1 hnew
        have hsame := freshIdOf_injective heq
        omega
    · rw [hdrawn]
      exact fun p hp => h ps hps p (List.mem_of_mem_filter hp)

/-! ## Presets that are found -/

/-- A preset is found under its id. -/
def Finds (key : String) (v : View) (p : Preset) : Prop :=
  ∃ ps, presetsOf key (v.desk.contents key) = .ok ps ∧
    ps.find? (fun q => q.hasId (.text p.id)) = some p

/-- **A preset is found under its id** until it is removed. -/
theorem finds_step (hkey : key ≠ Vocabulary.stateKey) {a : Act} (ha : a.KeepsPresets) {ms : Int}
    (hms : millisOf v.desk.clock = .ok ms) {p : Preset} (hremoved : a.removed? ≠ some p.id)
    (h : Finds key v p) : Finds key (v.step key a) p := by
  obtain ⟨ps, hps, hfind⟩ := h
  obtain ⟨ps', hps', hcases⟩ := presets_step hkey ha hps hms
  refine ⟨ps', hps', ?_⟩
  rcases hcases with ⟨rfl, -⟩ | ⟨name, query, rfl, -⟩ | ⟨id, hid, rfl, -⟩
  · exact hfind
  · rw [List.find?_append, hfind, Option.some_or]
  · have hne : p.id ≠ id := fun heq => hremoved (heq ▸ hid)
    rw [List.find?_filter, ← hfind]
    refine congrArg (ps.find? ·) (funext fun q => ?_)
    by_cases hq : q.id = p.id
    · simp [hq, hne]
    · simp [hq]

end SymbolSieve.Session
