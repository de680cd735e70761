import SymbolSieve.Proofs.Engine.Steps

/-!
# Filters that are taken up again

The filters that are stored are always those of the engine that changed its filters last, whoever
else uses the storage for whatever else.  An engine that begins with what is stored begins with the
durable fields of that one, and the rest of the document is safe from engines and presets.

The one thing that this depends on is what was stored before anything was done: a text that is
nested too deeply can neither be read nor replaced, so every engine fails on it for ever.

## What is here

* `lastMutated`: the engine that was the last to change its filters.
* `document_run`: over a run, the document holds the filters of that engine.
* `reload_iff`: exactly when a new engine takes up the filters of that engine.
-/

set_option autoImplicit false

namespace SymbolSieve.Session

/-! ## Runs -/

variable {key : String} {v : View}

/-- The engine that was the last to change its filters. -/
def lastMutated (as : List Act) : Option String := (as.filterMap Act.mutated?).getLast?

theorem lastMutated_append (as : List Act) (a : Act) :
    lastMutated (as ++ [a]) = a.mutated?.or (lastMutated as) := by
  rw [lastMutated, List.filterMap_append, List.getLast?_append]
  cases hmutated : a.mutated? <;> simp [hmutated, lastMutated]

theorem storable_run (key : String) (hv : ∀ name, (v.specs name).Fieldwise Storable) {as : List Act}
    (has : ∀ a ∈ as, a.Within Storable) (name : String) :
    ((as.foldl (View.step key) v).specs name).Fieldwise Storable := by
  induction as generalizing v with
  | nil => exact hv name
  | cons a as ih =>
    refine ih (fun other => ?_) fun b hb => has b (by simp [hb])
    exact fieldwise_step key storable_of_admits
      (fun _ stored _ _ _ ht => fieldwise_restored ht stored _) hv (has a (by simp)) other

/-- A document that cannot be read stays so. -/
theorem document_run_of_error (hkey : key ≠ Vocabulary.stateKey) {fault : ValueFault}
    (hread : v.document = .error fault) (as : List Act) :
    (as.foldl (View.step key) v).document = .error fault := by
  induction as generalizing v with
  | nil => exact hread
  | cons a as ih =>
    refine ih ?_
    rw [View.document, contents_step_of_error hkey hread]
    exact hread

/-- Taking over what an engine has stored changes no durable field of that engine, and nothing but a
change of its filters does. -/
theorem durableEntries_step (key : String) {doc : Entries} (hread : v.document = .ok doc)
    {e : String} (hholds : Document.Holds doc (v.specs e)) (hv : (v.specs e).Fieldwise Storable)
    {a : Act} (ha : a.change? v = none) :
    ((v.step key a).specs e).durableEntries = (v.specs e).durableEntries := by
  rcases step_cases key v a with ⟨e', c, hchange, -⟩ | ⟨e', rfl⟩ | ⟨path, value, rfl⟩ |
    ⟨-, -, d, hstep, -⟩
  · rw [ha] at hchange
    cases hchange
  · rw [View.step, restore_of_holds hread hholds]
    by_cases he : e = e'
    · subst he
      rw [View.specs_write_self]
      exact List.map_congr_left fun f hf => by rw [get_restored hv, if_pos hf]
    · rw [View.specs_write_of_ne _ v he]
  · rfl
  · rw [hstep]

/-- **The document over a run** holds the filters of the engine that was the last to change its
filters. -/
theorem document_run (hkey : key ≠ Vocabulary.stateKey) {doc : Entries}
    (hread : v.document = .ok doc) (hv : ∀ name, (v.specs name).Fieldwise Storable) {as : List Act}
    (has : ∀ a ∈ as, a.Within Storable) :
    ∃ doc', (as.foldl (View.step key) v).document = .ok doc' ∧ ∀ e, lastMutated as = some e →
      Document.Holds doc' ((as.foldl (View.step key) v).specs e) := by
  induction as using List.reverseRecOn with
  | nil => exact ⟨doc, hread, fun e he => nomatch he⟩
  | append_singleton as a ih =>
    have has' : ∀ b ∈ as, b.Within Storable := fun b hb => has b (by simp [hb])
    have ha : a.Within Storable := has a (by simp)
    obtain ⟨doc', hread', hlast⟩ := ih has'
    have hstorable := storable_run key hv has'
    rw [List.foldl_append, List.foldl_cons, List.foldl_nil]
    generalize as.foldl (View.step key) v = w at hread' hlast hstorable
    obtain ⟨doc'', hread'', -, hmutated, hkept⟩ := document_step hkey hread' hstorable ha
    refine ⟨doc'', hread'', fun e he => ?_⟩
    rw [lastMutated_append] at he
    cases hcase : a.mutated? with
    | some e' =>
      rw [hcase, Option.some_or, Option.some.injEq] at he
      exact hmutated e (by rw [hcase, he])
    | none =>
      rw [hcase, Option.none_or] at he
      have hchange : a.change? w = none := by simpa [hcase] using (ha.mutated?_eq w).symm
      have hsame := durableEntries_step key hread' (hlast e he) (hstorable e) hchange
      rw [Document.Holds, hsame]
      exact hkept hcase _ (hstorable e) (hlast e he)

/-! ## Sessions -/

variable {h : Handle}

/-- The document, read from the storage. -/
def loaded (h : Handle) (s : Session) : Except ValueFault Entries :=
  ((Document.load h).run s.desk).1

theorem loaded_of_healthy {s : Session} (hs : Storage.Healthy h s.desk.storage) :
    loaded h s = Document.read (Storage.raw Vocabulary.stateKey s.desk.storage) :=
  Document.simulates_load.result_eq hs

theorem loaded_eq {s : Session} (hs : Good h s) : loaded h s = s.view.document :=
  loaded_of_healthy hs.desk

/-- If the text that was there at the beginning is nested too deeply, no engine takes up anything.
-/
theorem restore_run_of_tooDeep {s : Session} (hs : Good h s) (hkey : key ≠ Vocabulary.stateKey)
    (hdeep : Document.TooDeep (Storage.raw Vocabulary.stateKey s.desk.storage)) (as : List Act)
    (name : String) : (restore (.text name) (run h key as s).2).1 = .error .tooDeep := by
  have hread : s.view.document = .error .tooDeep := (Document.read_eq_error_iff _ _).2 ⟨hdeep, rfl⟩
  have hread' := document_run_of_error hkey hread as
  rw [← view_run hs] at hread'
  rw [(simulates_restore name).result_eq (good_run key hs as), restore_of_error hread']

/-- An engine that nothing was done with takes up the filters that the document holds. -/
theorem restore_of_document {t : Session} (ht : Good h t) {fresh : String}
    (hfresh : t.view.specs fresh = .unconstrained) {doc : Entries}
    (hread : t.view.document = .ok doc) {spec : Spec} (hspec : spec.Fieldwise Storable)
    (hholds : Document.Holds doc spec) :
    (restore (.text fresh) t).1 = .ok () ∧
      ∀ f, ((restore (.text fresh) t).2.engineOf (.text fresh)).spec.get f =
        if f ∈ Field.durable then spec.get f else f.default := by
  have hafter : ((restore (.text fresh) t).2.engineOf (.text fresh)).spec =
      (t.view.restore fresh).2.specs fresh :=
    congrFun (congrArg View.specs ((simulates_restore fresh).view_after ht)) fresh
  rw [(simulates_restore fresh).result_eq ht, hafter, restore_of_holds hread hholds]
  refine ⟨rfl, fun f => ?_⟩
  dsimp only
  rw [View.specs_write_self, get_restored hspec, hfresh, Spec.get_unconstrained]

/-- Engines and acts on presets change nothing in the document but the filters. -/
theorem loaded_perform {t : Session} (ht : Good h t) (hkey : key ≠ Vocabulary.stateKey)
    (hv : ∀ name, (t.view.specs name).Fieldwise Storable) {a : Act} (ha : a.Within Storable)
    (hwrite : a.isWrite = false) {k : String} (hk : k ≠ "filters") :
    (loaded h (perform h key a t).2).map (Assoc.get? k) = (loaded h t).map (Assoc.get? k) := by
  have hstep := simulates_perform h key a
  rw [loaded_eq ht, loaded_eq (hstep.good_after ht), hstep.view_after ht]
  cases hread : t.view.document with
  | error fault =>
    rw [View.document] at hread ⊢
    rw [contents_step_of_error hkey hread, hread]
  | ok doc =>
    obtain ⟨doc', hread', hframe, -⟩ := document_step hkey hread hv ha
    rw [hread']
    exact congrArg Except.ok (hframe hwrite k hk)

/-- **A new engine takes up the filters** of the engine that changed its filters last, with defaults
in the fields that are not stored, exactly if the text that was there at the beginning was not
nested too deeply.  And no engine and no act on presets changes anything in the document but the
filters. -/
theorem reload_iff (h : Handle) (key : String) (s : Session) (as : List Act)
    (hstorage : Storage.Healthy h s.desk.storage) (hhandle : s.handle = some h)
    (hengines : s.engines = []) (hkey : key ≠ Vocabulary.stateKey)
    (has : ∀ a ∈ as, a.Within Storable) :
    (∀ e fresh, lastMutated as = some e → (∀ a ∈ as, a.engine? ≠ some fresh) →
      (((restore (.text fresh) (run h key as s).2).1 = .ok () ∧
        ∀ f, ((restore (.text fresh) (run h key as s).2).2.engineOf (.text fresh)).spec.get f =
          if f ∈ Field.durable then ((run h key as s).2.engineOf (.text e)).spec.get f
          else f.default) ↔
        ¬ Document.TooDeep (Storage.raw Vocabulary.stateKey s.desk.storage))) ∧
    ∀ a : Act, a.Within Storable → a.isWrite = false → ∀ k, k ≠ "filters" →
      (loaded h (perform h key a (run h key as s).2).2).map (Assoc.get? k) =
        (loaded h (run h key as s).2).map (Assoc.get? k) := by
  have hgood := good_of_engines_eq_nil hstorage hhandle hengines
  have hdefault := specs_of_engines_eq_nil hengines
  have hstorable : ∀ name, (s.view.specs name).Fieldwise Storable := fun name => by
    rw [hdefault]
    exact Spec.fieldwise_unconstrained fun f => storable_of_admits f _ (Query.admits_default f)
  have hspecs := storable_run key hstorable has
  generalize ht : (run h key as s).2 = t
  have hgood' : Good h t := ht ▸ good_run key hgood as
  have hview : t.view = as.foldl (View.step key) s.view := ht ▸ view_run hgood as
  rw [← hview] at hspecs
  refine ⟨fun e fresh hlast hfresh => ⟨fun hok hdeep => ?_, fun hnot => ?_⟩,
    fun a ha hwrite k hk => loaded_perform hgood' hkey hspecs ha hwrite hk⟩
  · have herror := restore_run_of_tooDeep hgood hkey hdeep as fresh
    rw [ht, hok.1] at herror
    cases herror
  · have hfreshspec := specs_run_of_ne key s.view hfresh
    obtain ⟨doc, hread⟩ : ∃ doc, s.view.document = .ok doc := Document.exists_read _ hnot
    obtain ⟨doc', hread', hholds⟩ := document_run hkey hread hstorable has
    rw [← hview] at hread' hholds hfreshspec
    rw [hdefault] at hfreshspec
    exact restore_of_document hgood' hfreshspec hread' (hspecs e) (hholds e hlast)

/-- The other engine was the last one to change its filters, whatever else was done after that. -/
theorem reload_iff_two_engines :
    let as : List Act := [.change "main" (.query (.text "kind:function cache")), .restore "side",
      .change "side" (.update [("file", .text "*.py"), ("min_refs", .int 3)]),
      .write "sortState.list" (.text "name"), .addPreset "Dead" "state:dead"]
    (restore (.text "new") (run 0 Vocabulary.presetsKey as (onMemory [])).2).1 = .ok () ∧
      ∀ f, ((restore (.text "new") (run 0 Vocabulary.presetsKey as (onMemory [])).2).2.engineOf
          (.text "new")).spec.get f =
        if f ∈ Field.durable then
          ((run 0 Vocabulary.presetsKey as (onMemory [])).2.engineOf (.text "side")).spec.get f
        else f.default := by
  intro as
  have has : ∀ a ∈ as, a.Within Storable := by
    simp only [as, List.forall_mem_cons]
    have hpath : (Document.keysOf "sortState.list").head? ≠ some "filters" := by decide
    refine ⟨⟨_, rfl⟩, trivial, ?_, hpath, trivial, by simp⟩
    intro e he f hf
    rcases (by simpa using he : e = _ ∨ e = _) with rfl | rfl
    · obtain rfl : Field.file = f := Option.some.inj hf
      exact fun _ => rfl
    · obtain rfl : Field.minRefs = f := Option.some.inj hf
      exact fun hdurable => absurd hdurable (by decide)
  refine ((reload_iff 0 Vocabulary.presetsKey (onMemory []) as (healthy_onMemory []) rfl rfl
    (by decide) has).1 "side" "new" rfl ?_).2 ?_
  · simp [as, Act.engine?]
  · rintro ⟨t, ht, -⟩
    cases ht

/-- No engine takes up the filters that were changed last, if a text stands in the way that is
nested too deeply. -/
theorem reload_fails_on_deepText :
    let as : List Act := [.change "main" (.query (.text "kind:function"))]
    (∀ a ∈ as, a.Within Storable) ∧ lastMutated as = some "main" ∧
      (restore (.text "new") (run 0 Vocabulary.presetsKey as
        (onMemory [(Vocabulary.stateKey, Document.deepText)])).2).1 = .error .tooDeep := by
  have hgood := good_of_engines_eq_nil
    (healthy_onMemory [(Vocabulary.stateKey, Document.deepText)]) rfl rfl
  refine ⟨?_, rfl, restore_run_of_tooDeep hgood (by decide) Document.tooDeep_deepText _ _⟩
  intro a ha
  obtain rfl := List.mem_singleton.1 ha
  exact ⟨_, rfl⟩

end SymbolSieve.Session
