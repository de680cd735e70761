import SymbolSieve.Proofs.Engine.Shelf
import SymbolSieve.Proofs.Query.RoundTrip

/-!
# Filters that are saved as a preset

Filters that are set by queries, menus and quick filters can be written as a query, and so can those
that come back from the storage, because nothing else was ever stored there.  A preset that saves
them brings them back, whatever is done in between, until it is removed.

Again this depends on what was stored before anything was done: on a list of presets that is nested
too deeply, saving fails.

## What is here

* `Orderly`: what holds of a session throughout a run; `orderly_step` says that acts keep it.
* `NothingToSave`: the filters that are not saved, and the names under which nothing is.
* `saved_preset_iff`: exactly when filters are saved and come back.
-/

set_option autoImplicit false

namespace SymbolSieve.Session

open PresetStore Query

variable {key : String} {v : View}

/-! ## Orderly runs -/

/-- An act that keeps to the filters that queries can give, and that does not replace the presets.
-/
def Act.Orderly (a : Act) : Prop := a.Within Admits ∧ a.KeepsPresets

/-- All filters can be written as queries, those in the document included, there is a time for new
ids, and no preset has an id that is still to be drawn. -/
structure Orderly (key : String) (v : View) : Prop where
  specs : ∀ name, WellFormed (v.specs name)
  document : ∃ doc s, v.document = .ok doc ∧ WellFormed s ∧ Document.Holds doc s
  clock : ∃ ms, millisOf v.desk.clock = .ok ms
  reserved : Reserved key v

theorem storable_of_wellFormed {s : Spec} (hs : WellFormed s) : s.Fieldwise Storable :=
  Spec.Fieldwise.mono hs storable_of_admits

theorem wellFormed_restored {s t : Spec} (hs : WellFormed s) (ht : WellFormed t) :
    WellFormed (View.restored s.durableEntries Field.durable t) := by
  intro f
  rw [get_restored (storable_of_wellFormed hs)]
  split
  · exact hs f
  · exact ht f

theorem Act.Within.mono {P Q : Field → Value → Prop} (h : ∀ f v, P f v → Q f v) {a : Act}
    (ha : a.Within P) : a.Within Q := by
  cases a with
  | change e c => cases c <;> first | exact ha | exact Spec.Gives.mono ha h
  | toggle e fields => exact ⟨ha.1.mono h, ha.2⟩
  | _ => exact ha

/-- **Orderly acts keep everything in order.** -/
theorem orderly_step (hkey : key ≠ Vocabulary.stateKey) (hv : Orderly key v) {a : Act}
    (ha : a.Orderly) : Orderly key (v.step key a) := by
  obtain ⟨doc, s, hread, hs, hholds⟩ := hv.document
  obtain ⟨ms, hms⟩ := hv.clock
  have hrestored : ∀ doc' stored, v.document = .ok doc' →
      Assoc.get? "filters" doc' = some (.map stored) → ∀ t : Spec, t.Fieldwise Admits →
        (View.restored stored Field.durable t).Fieldwise Admits := by
    intro doc' stored hread' hstored t ht
    obtain rfl : doc = doc' := Except.ok.inj (hread.symm.trans hread')
    obtain rfl : s.durableEntries = stored :=
      Value.map.inj (Option.some.inj (hholds.symm.trans hstored))
    exact wellFormed_restored hs ht
  have hspecs := fieldwise_step key (fun _ _ => id) hrestored hv.specs ha.1
  obtain ⟨doc', hread', -, hmutated, hkept⟩ := document_step hkey hread
    (fun name => storable_of_wellFormed (hv.specs name)) (ha.1.mono storable_of_admits)
  refine ⟨hspecs, ?_, clock_step hkey ha.2 hv.clock, reserved_step hkey ha.2 hms hv.reserved⟩
  cases hcase : a.mutated? with
  | some e => exact ⟨doc', _, hread', hspecs e, hmutated e hcase⟩
  | none => exact ⟨doc', s, hread', hs, hkept hcase s (storable_of_wellFormed hs) hholds⟩

theorem orderly_run (hkey : key ≠ Vocabulary.stateKey) (hv : Orderly key v) {as : List Act}
    (has : ∀ a ∈ as, a.Orderly) : Orderly key (as.foldl (View.step key) v) := by
  induction as generalizing v with
  | nil => exact hv
  | cons a as ih =>
    exact ih (orderly_step hkey hv (has a (by simp))) fun b hb => has b (by simp [hb])

/-- A preset is found under its id as long as no act removes it. -/
theorem finds_run (hkey : key ≠ Vocabulary.stateKey) (hv : Orderly key v) {p : Preset}
    (hp : Finds key v p) {as : List Act} (has : ∀ a ∈ as, a.Orderly ∧ a.removed? ≠ some p.id) :
    Finds key (as.foldl (View.step key) v) p := by
  induction as generalizing v with
  | nil => exact hp
  | cons a as ih =>
    obtain ⟨ha, hremoved⟩ := has a (by simp)
    obtain ⟨ms, hms⟩ := hv.clock
    exact ih (orderly_step hkey hv ha) (finds_step hkey ha.2 hms hremoved hp)
      fun b hb => has b (by simp [hb])

/-- Presets that cannot be read stay so. -/
theorem presets_run_of_error (hkey : key ≠ Vocabulary.stateKey) {as : List Act}
    (has : ∀ a ∈ as, a.Orderly) {fault : ValueFault}
    (hps : presetsOf key (v.desk.contents key) = .error fault) :
    presetsOf key ((as.foldl (View.step key) v).desk.contents key) = .error fault := by
  induction as generalizing v with
  | nil => exact hps
  | cons a as ih =>
    exact ih (fun b hb => has b (by simp [hb])) (presets_step_of_error hkey (has a (by simp)).2 hps)

/-- Presets that can be read stay so. -/
theorem exists_presets_run (hkey : key ≠ Vocabulary.stateKey) (hv : Orderly key v) {as : List Act}
    (has : ∀ a ∈ as, a.Orderly) {ps : List Preset}
    (hps : presetsOf key (v.desk.contents key) = .ok ps) :
    ∃ qs, presetsOf key ((as.foldl (View.step key) v).desk.contents key) = .ok qs := by
  induction as generalizing v ps with
  | nil => exact ⟨ps, hps⟩
  | cons a as ih =>
    obtain ⟨ms, hms⟩ := hv.clock
    obtain ⟨qs, hqs, -⟩ := presets_step hkey (has a (by simp)).2 hps hms
    exact ih (orderly_step hkey hv (has a (by simp))) (fun b hb => has b (by simp [hb])) hqs

/-! ## Saving -/

/-- The name is blank, or the filters ask for nothing. -/
def NothingToSave (s : Spec) (name : String) : Prop :=
  (Text.trim name).isEmpty = true ∨ ∀ f, s.get f = f.default ∨ f = .entry ∧ s.get f = .bool false

/-- What saving comes down to. -/
theorem savePreset_eq (key : String) {e : String} (hs : WellFormed (v.specs e)) (name : String) :
    ∃ query, parse query = .ok (settled (v.specs e)) ∧
      (NothingToSave (v.specs e) name → v.savePreset e key name = (.ok none, v)) ∧
      (¬ NothingToSave (v.specs e) name → v.savePreset e key name =
        ((addView key (Text.trim name) query v.desk).1.map some,
          { v with desk := (addView key (Text.trim name) query v.desk).2 })) := by
  obtain ⟨query, hquery, hparse⟩ := parse_canonical hs
  have hnothing : NothingToSave (v.specs e) name ↔
      (query.isEmpty || (Text.trim name).isEmpty) = true := by
    rw [NothingToSave, ← canonical_eq_empty_iff hs, hquery, Bool.or_eq_true, or_comm,
      Except.ok.injEq, String.isEmpty_iff, String.isEmpty_iff]
  refine ⟨query, hparse, fun h => ?_, fun h => ?_⟩
  · rw [View.savePreset, hquery]
    exact if_pos (hnothing.1 h)
  · rw [View.savePreset, hquery]
    exact if_neg (mt hnothing.2 h)

/-- Nothing is saved exactly if there is nothing to save. -/
theorem savePreset_eq_none_iff {e : String} (hs : WellFormed (v.specs e)) (name : String) :
    (v.savePreset e key name).1 = .ok none ↔ NothingToSave (v.specs e) name := by
  obtain ⟨query, -, hnothing, hsomething⟩ := savePreset_eq key hs name
  constructor
  · intro hnone
    by_contra h
    rw [hsomething h] at hnone
    cases hadd : (addView key (Text.trim name) query v.desk).1 <;> simp [hadd, Except.map] at hnone
  · intro h
    rw [hnothing h]

/-- **Saved filters** are found under a fresh id. -/
theorem exists_savePreset (hkey : key ≠ Vocabulary.stateKey) (hv : Orderly key v) {e name : String}
    (h : ¬ NothingToSave (v.specs e) name) {ps : List Preset}
    (hps : presetsOf key (v.desk.contents key) = .ok ps) :
    ∃ p, (v.savePreset e key name).1 = .ok (some p) ∧ (∀ q ∈ ps, q.id ≠ p.id) ∧
      parse p.query = .ok (settled (v.specs e)) ∧ Orderly key (v.savePreset e key name).2 ∧
      Finds key (v.savePreset e key name).2 p := by
  obtain ⟨query, hparse, -, hsomething⟩ := savePreset_eq key (hv.specs e) name
  obtain ⟨ms, hms⟩ := hv.clock
  have hact : (Act.savePreset e name).Orderly := ⟨trivial, trivial⟩
  have horderly : Orderly key (v.savePreset e key name).2 := orderly_step hkey hv hact
  have hfresh : ∀ q ∈ ps, q.id ≠ freshIdOf ms (v.desk.drawn + 1) := fun q hq =>
    hv.reserved ps hps q hq ms _ (Nat.lt_succ_self _)
  have hsaved := hsomething h
  rw [addView_of_ok hps hms] at hsaved
  rw [hsaved] at horderly ⊢
  refine ⟨_, rfl, hfresh, hparse, horderly,
    ps ++ [⟨freshIdOf ms (v.desk.drawn + 1), Text.trim name, query⟩], ?_, ?_⟩
  · exact (congrArg (presetsOf key) (Desk.View.contents_put_self ..)).trans (presetsOf_listText ..)
  · have hnone : ps.find? (fun q => q.hasId (.text (freshIdOf ms (v.desk.drawn + 1)))) = none := by
      rw [List.find?_eq_none]
      intro q hq
      simpa using hfresh q hq
    rw [List.find?_append, hnone, Option.none_or]
    simp

/-- Saving fails on presets that cannot be read. -/
theorem savePreset_of_error {e name : String} (hs : WellFormed (v.specs e))
    (h : ¬ NothingToSave (v.specs e) name) {fault : ValueFault}
    (hps : presetsOf key (v.desk.contents key) = .error fault) :
    (v.savePreset e key name).1 = .error fault := by
  obtain ⟨query, -, -, hsomething⟩ := savePreset_eq key hs name
  rw [hsomething h, addView, hps]
  rfl

/-- **Applying a preset** gives the filters that its query describes. -/
theorem change_of_parse (hv : Orderly key v) {query : String} {s : Spec} (h : parse query = .ok s)
    (e : String) : (v.change e (.query (.text query))).1 = .ok () ∧
      (v.change e (.query (.text query))).2.specs e = s := by
  obtain ⟨doc, -, hread, -⟩ := hv.document
  have happly : (Change.query (.text query)).apply (v.specs e) = .ok s := h
  have hread' : Document.read ((v.write e s).desk.contents Vocabulary.stateKey) = .ok doc := hread
  obtain ⟨t, doc', -, ⟨r, hr⟩, -⟩ :=
    Document.updateView_filters hread'
      (faithful_of_storable (storable_of_wellFormed (wellFormed_of_parse h)))
  rw [View.change, happly]
  refine ⟨?_, View.specs_write_self ..⟩
  dsimp only [View.persist]
  rw [View.specs_write_self, hr]
  rfl

/-! ## Sessions -/

variable {h : Handle} {s : Session}

/-- A preset brings filters back: whatever is done that does not remove it, it is found under its
id, and applying it to any engine gives these filters. -/
def BringsBack (h : Handle) (key : String) (p : Preset) (spec : Spec) (s : Session) : Prop :=
  ∀ later : List Act, (∀ a ∈ later, a.Orderly ∧ a.removed? ≠ some p.id) →
    ((PresetStore.get h key (.text p.id)).run (run h key later s).2.desk).1 = .ok (some p) ∧
    ∀ e, (applyPreset (.text e) (some p) (run h key later s).2).1 = .ok () ∧
      ((applyPreset (.text e) (some p) (run h key later s).2).2.engineOf (.text e)).spec = spec

theorem bringsBack (hs : Good h s) (hkey : key ≠ Vocabulary.stateKey)
    (horderly : Orderly key s.view) {p : Preset} {spec : Spec} (hfinds : Finds key s.view p)
    (hparse : parse p.query = .ok spec) : BringsBack h key p spec s := by
  intro later hlater
  have hgood := good_run key hs later
  have horderly' := orderly_run hkey horderly fun a ha => (hlater a ha).1
  have hfinds' := finds_run hkey horderly hfinds hlater
  rw [← view_run hs] at horderly' hfinds'
  refine ⟨?_, fun e => ?_⟩
  · obtain ⟨ps, hps, hfind⟩ := hfinds'
    have hview : (run h key later s).2.desk.view.contents key =
        (run h key later s).2.view.desk.contents key := rfl
    rw [(PresetStore.simulates_get key (.text p.id)).result_eq hgood.desk]
    dsimp only
    rw [hview, hps]
    exact congrArg Except.ok hfind
  · have happly := simulates_applyPreset (h := h) e p
    obtain ⟨hresult, hspec⟩ := change_of_parse horderly' hparse e
    rw [happly.result_eq hgood]
    refine ⟨hresult, ?_⟩
    rw [← hspec]
    exact congrFun (congrArg View.specs (happly.view_after hgood)) e

/-- A session in which nothing was done yet is orderly, if there is no document. -/
theorem orderly_of_engines_eq_nil (hengines : s.engines = [])
    (hstate : Storage.raw Vocabulary.stateKey s.desk.storage = .null)
    (hclock : ∃ ms, millisOf s.desk.clock = .ok ms)
    (hids : ∀ ps, presetsOf key (Storage.raw key s.desk.storage) = .ok ps →
      ∀ p ∈ ps, ∀ ms n, s.desk.drawn < n → p.id ≠ freshIdOf ms n) : Orderly key s.view where
  specs name := by
    rw [specs_of_engines_eq_nil hengines]
    exact wellFormed_unconstrained
  document := by
    refine ⟨Document.default, .unconstrained, ?_, wellFormed_unconstrained, Document.holds_default⟩
    show Document.read (Storage.raw Vocabulary.stateKey s.desk.storage) = _
    rw [hstate]
    rfl
  clock := hclock
  reserved := hids

/-- **Filters are saved and come back** as long as there is something to save, exactly if the
presets that were there at the beginning were not nested too deeply.  The preset gets a fresh id.
And nothing is saved exactly if there is nothing to save. -/
theorem saved_preset_iff (h : Handle) (key : String) (s : Session) (as : List Act) (e name : String)
    (hstorage : Storage.Healthy h s.desk.storage) (hhandle : s.handle = some h)
    (hengines : s.engines = []) (hkey : key ≠ Vocabulary.stateKey)
    (hstate : Storage.raw Vocabulary.stateKey s.desk.storage = .null)
    (hclock : ∃ ms, millisOf s.desk.clock = .ok ms)
    (hids : ∀ ps, presetsOf key (Storage.raw key s.desk.storage) = .ok ps →
      ∀ p ∈ ps, ∀ ms n, s.desk.drawn < n → p.id ≠ freshIdOf ms n)
    (has : ∀ a ∈ as, a.Orderly) :
    let t := (run h key as s).2
    let spec := (t.engineOf (.text e)).spec
    let saved := savePreset (.text e) key (.text name) t
    (saved.1 = .ok none ↔ NothingToSave spec name) ∧
    (¬ NothingToSave spec name →
      ((∃ p, saved.1 = .ok (some p) ∧
          (∀ ps, presetsOf key (Storage.raw key t.desk.storage) = .ok ps → ∀ q ∈ ps, q.id ≠ p.id) ∧
          BringsBack h key p (settled spec) saved.2) ↔
        ¬ Document.TooDeep (Storage.raw key s.desk.storage))) := by
  intro t spec saved
  have hgood := good_of_engines_eq_nil hstorage hhandle hengines
  have horderly := orderly_of_engines_eq_nil hengines hstate hclock hids
  have hgood' : Good h t := good_run key hgood as
  have hview : t.view = as.foldl (View.step key) s.view := view_run hgood as
  have horderly' : Orderly key t.view := hview ▸ orderly_run hkey horderly has
  have hsave := simulates_savePreset (h := h) e key name
  have hresult : saved.1 = (t.view.savePreset e key name).1 := hsave.result_eq hgood'
  rw [hresult]
  refine ⟨savePreset_eq_none_iff (horderly'.specs e) name, fun hsomething => ⟨?_, fun hnot => ?_⟩⟩
  · rintro ⟨p, hp, -⟩ hdeep
    have hps := (presetsOf_eq_error_iff key _ _).2 ⟨hdeep, rfl⟩
    have hps' : presetsOf key (t.view.desk.contents key) = .error .tooDeep := by
      rw [hview]
      exact presets_run_of_error hkey has hps
    rw [savePreset_of_error (horderly'.specs e) hsomething hps'] at hp
    cases hp
  · obtain ⟨ps, hps⟩ := exists_presetsOf key _ hnot
    obtain ⟨qs, hqs⟩ := exists_presets_run hkey horderly has hps
    rw [← hview] at hqs
    obtain ⟨p, hp, hfresh, hparse, hafter, hfinds⟩ :=
      exists_savePreset hkey horderly' hsomething hqs
    rw [← hsave.view_after hgood'] at hafter hfinds
    refine ⟨p, hp, fun qs' hqs' => ?_,
      bringsBack (hsave.good_after hgood') hkey hafter hfinds hparse⟩
    obtain rfl : qs = qs' := Except.ok.inj (hqs.symm.trans hqs')
    exact hfresh

/-! ## One engine on memory -/

/-- After a query, an engine has the filters that the query describes. -/
theorem specs_query {h : Handle} {s : Session} (hs : Good h s) (horderly : Orderly key s.view)
    (query : String) {spec : Spec} (hparse : parse query = .ok spec) (e : String) :
    ((run h key [.change e (.query (.text query))] s).2.engineOf (.text e)).spec = spec := by
  rw [← (change_of_parse horderly hparse e).2]
  exact congrFun (congrArg View.specs (view_run hs _)) e

theorem not_nothingToSave_functions :
    ¬ NothingToSave { kind := .text "function" } "Functions" := by
  rintro (hblank | hdefault)
  · exact absurd hblank (by decide)
  · rcases hdefault .kind with hkind | ⟨hkind, -⟩
    · exact absurd (Value.text.inj hkind) (by decide)
    · cases hkind

/-- On memory that holds nothing, filters that were just set by a query are saved and come back. -/
theorem saved_preset_iff_query :
    ∃ p, (savePreset (.text "main") Vocabulary.presetsKey (.text "Functions")
        (run 0 Vocabulary.presetsKey [.change "main" (.query (.text "kind:function"))]
          (onMemory [])).2).1 = .ok (some p) ∧
      BringsBack 0 Vocabulary.presetsKey p { kind := .text "function" }
        (savePreset (.text "main") Vocabulary.presetsKey (.text "Functions")
          (run 0 Vocabulary.presetsKey [.change "main" (.query (.text "kind:function"))]
            (onMemory [])).2).2 := by
  have hgood := good_of_engines_eq_nil (healthy_onMemory []) rfl rfl
  have hclock : ∃ ms, millisOf (onMemory []).desk.clock = .ok ms := ⟨_, rfl⟩
  have hids : ∀ ps, presetsOf Vocabulary.presetsKey .null = .ok ps →
      ∀ p ∈ ps, ∀ ms n, 0 < n → p.id ≠ freshIdOf ms n := by
    rintro ps hps p hp ms n -
    obtain rfl : Preset.builtIn = ps := Except.ok.inj hps
    exact id_ne_freshIdOf_of_mem_builtIn hp ms n
  have hnot : ¬ Document.TooDeep .null := fun ⟨_, ht, _⟩ => nomatch ht
  have hparse : parse "kind:function" = .ok { kind := .text "function" } := rfl
  have hspec := specs_query hgood (orderly_of_engines_eq_nil rfl rfl hclock hids) _ hparse "main"
  obtain ⟨-, hsaved⟩ := saved_preset_iff 0 Vocabulary.presetsKey (onMemory [])
    [.change "main" (.query (.text "kind:function"))] "main" "Functions" (healthy_onMemory []) rfl
    rfl (by decide) rfl hclock hids
    (fun a ha => by obtain rfl := List.mem_singleton.1 ha; exact ⟨⟨_, rfl⟩, trivial⟩)
  rw [hspec] at hsaved
  obtain ⟨p, hp, -, hback⟩ := (hsaved not_nothingToSave_functions).2 hnot
  exact ⟨p, hp, hback⟩

/-- If a text stands in the way that is nested too deeply, saving filters fails that were just set.
-/
theorem saving_fails_of_tooDeep {text : String} (hdeep : Document.TooDeep (.text text)) :
    ¬ NothingToSave ((run 0 Vocabulary.presetsKey [.change "main" (.query (.text "kind:function"))]
        (onMemory [(Vocabulary.presetsKey, text)])).2.engineOf (.text "main")).spec "Functions" ∧
      (savePreset (.text "main") Vocabulary.presetsKey (.text "Functions")
        (run 0 Vocabulary.presetsKey [.change "main" (.query (.text "kind:function"))]
          (onMemory [(Vocabulary.presetsKey, text)])).2).1 = .error .tooDeep := by
  have hgood := good_of_engines_eq_nil (healthy_onMemory [(Vocabulary.presetsKey, text)]) rfl rfl
  have hps : presetsOf Vocabulary.presetsKey ((onMemory [(Vocabulary.presetsKey,
      text)]).view.desk.contents Vocabulary.presetsKey) = .error .tooDeep :=
    (presetsOf_eq_error_iff _ _ _).2 ⟨hdeep, rfl⟩
  have horderly : Orderly Vocabulary.presetsKey (onMemory [(Vocabulary.presetsKey, text)]).view :=
    orderly_of_engines_eq_nil rfl rfl ⟨_, rfl⟩ fun ps hps' => nomatch hps.symm.trans hps'
  have has : ∀ a ∈ [Act.change "main" (.query (.text "kind:function"))], a.Orderly := by
    intro a ha
    obtain rfl := List.mem_singleton.1 ha
    exact ⟨⟨_, rfl⟩, trivial⟩
  have hparse : parse "kind:function" = .ok { kind := .text "function" } := rfl
  have hspec := specs_query hgood horderly _ hparse "main"
  have hgood' := good_run Vocabulary.presetsKey hgood
    [.change "main" (.query (.text "kind:function"))]
  have hkey : Vocabulary.presetsKey ≠ Vocabulary.stateKey := by decide
  have horderly' := orderly_run hkey horderly has
  have hps' := presets_run_of_error hkey has hps
  rw [← view_run hgood] at horderly' hps'
  have hnot : ¬ NothingToSave ((run 0 Vocabulary.presetsKey
      [.change "main" (.query (.text "kind:function"))]
      (onMemory [(Vocabulary.presetsKey, text)])).2.engineOf (.text "main")).spec "Functions" := by
    rw [hspec]
    exact not_nothingToSave_functions
  refine ⟨hnot, ?_⟩
  rw [(simulates_savePreset "main" Vocabulary.presetsKey "Functions").result_eq hgood']
  rw [← specs_view] at hnot
  exact savePreset_of_error (horderly'.specs "main") hnot hps'

/-- There is such a text, and then there are filters that are neither saved nor nothing to save. -/
theorem saving_fails_on_deepText :
    ¬ NothingToSave ((run 0 Vocabulary.presetsKey [.change "main" (.query (.text "kind:function"))]
        (onMemory [(Vocabulary.presetsKey, Document.deepText)])).2.engineOf (.text "main")).spec
        "Functions" ∧
      (savePreset (.text "main") Vocabulary.presetsKey (.text "Functions")
        (run 0 Vocabulary.presetsKey [.change "main" (.query (.text "kind:function"))]
          (onMemory [(Vocabulary.presetsKey, Document.deepText)])).2).1 = .error .tooDeep :=
  saving_fails_of_tooDeep Document.tooDeep_deepText

end SymbolSieve.Session
