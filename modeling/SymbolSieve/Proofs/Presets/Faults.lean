import Mathlib.Data.List.Forall2
import SymbolSieve.Proofs.Presets.Stored
import SymbolSieve.Proofs.Storage.Faulty

/-!
# Editing presets while the storage fails

A new preset is appended to the list that could be read, and what is removed is taken out of it.  If
nothing could be read, that list is the one of the built-in presets.  A failure of the write does no
harm, since the stored list stays.  A failure of the read does, if the write that follows succeeds:
the built-in presets take the place of everything that was stored.

## What is here

* `Represents`: a raw value is the text of a list of presets, in whatever layout.
* `Edit`: adding and removing a preset, and the list that an edit makes of another one.
* `raw_after_edit`: what is stored after an edit, whatever fails.
* `edit_keeps_presets_iff`: exactly when an edit keeps the presets that it should keep.
-/

set_option autoImplicit false

namespace SymbolSieve.PresetStore

open Json Desk

/-! ## Stored lists -/

/-- A value has the three entries of a preset, in any order. -/
def Describes (v : Value) (p : Preset) : Prop := ∃ es, v = .map es ∧ es.Perm p.entries

/-- A raw value is the text of a list of presets. -/
def Represents (raw : Value) (ps : List Preset) : Prop :=
  ∃ t vs, raw = .text t ∧ decode t = .ok (.list vs) ∧ List.Forall₂ Describes vs ps

theorem ofValue_of_describes {v : Value} {p : Preset} (h : Describes v p) :
    Preset.ofValue v = .ok p := by
  obtain ⟨es, rfl, hperm⟩ := h
  have hkeys : (Assoc.keys p.entries).Nodup := by
    simp [Preset.entries, Preset.entriesOf, Assoc.keys]
  have hnodup : (Assoc.keys es).Nodup := (hperm.map Prod.fst).nodup_iff.2 hkeys
  have hget : ∀ e ∈ p.entries, Assoc.get? e.1 es = some e.2 := fun e he =>
    (Assoc.get?_eq_some_iff hnodup).2 (hperm.mem_iff.2 he)
  have hid := hget ("id", .text p.id) (by simp [Preset.entries, Preset.entriesOf])
  have hname := hget ("name", .text p.name) (by simp [Preset.entries, Preset.entriesOf])
  have hquery := hget ("query", .text p.query) (by simp [Preset.entries, Preset.entriesOf])
  dsimp only at hid hname hquery
  simp only [Preset.ofValue, Preset.entryOf, hid, hname, hquery]
  rfl

theorem presetsOf_of_represents (key : String) {raw : Value} {ps : List Preset}
    (h : Represents raw ps) : presetsOf key raw = .ok ps := by
  obtain ⟨t, vs, rfl, hdecode, hall⟩ := h
  have hvalues : vs.filterMap (fun v => (Preset.ofValue v).toOption) = ps := by
    clear hdecode
    induction hall with
    | nil => rfl
    | cons hv _ ih =>
      rw [List.filterMap_cons, ofValue_of_describes hv, ih]
      rfl
  rw [presetsOf, Storage.ofRaw, hdecode]
  exact congrArg Except.ok hvalues

theorem represents_listText (ps : List Preset) : Represents (.text (listText ps)) ps := by
  refine ⟨_, ps.map fun p => .map p.entries, rfl, ?_, ?_⟩
  · rw [decode_encode (encode_listValue ps), reread_of_plain _ (faithful_listValue ps).1]
    rfl
  · rw [List.forall₂_map_left_iff]
    exact List.forall₂_same.2 fun p _ => ⟨p.entries, rfl, .refl _⟩

/-! ## Edits -/

/-- What can be done to the list of presets. -/
inductive Edit where
  | add (name query : String)
  | remove (id : String)

namespace Edit

/-- An edit of the stored list. -/
def run (h : Handle) (key : String) : Edit → Attempt Unit
  | add name query => do let _ ← PresetStore.add h key name query
  | remove id => PresetStore.remove h key (.text id)

/-- The list that an edit makes of another one; there is none if a new preset gets no id. -/
def outcome (clock : Except ValueFault Int) (drawn : Nat) (ps : List Preset) :
    Edit → Except ValueFault (List Preset)
  | add name query =>
    (millisOf clock).map fun ms => ps ++ [⟨freshIdOf ms (drawn + 1), name, query⟩]
  | remove id => .ok (ps.filter fun p => p.id != id)

/-- Whether an edit should keep a preset. -/
def keeps : Edit → Preset → Bool
  | add .., _ => true
  | remove id, p => p.id != id

/-- What an edit makes of a list has everything in it that it should keep. -/
theorem sublist_outcome {clock : Except ValueFault Int} {drawn : Nat} {ps qs : List Preset}
    {e : Edit} (h : e.outcome clock drawn ps = .ok qs) : (ps.filter e.keeps).Sublist qs := by
  cases e with
  | add name query =>
    obtain ⟨ms, -, rfl⟩ := map_eq_ok_iff.1 h
    exact (List.filter_sublist).trans (List.sublist_append_left _ _)
  | remove id =>
    cases h
    exact List.Sublist.refl _

end Edit

/-! ## Faults -/

section Faults

variable {h : Handle} {key t : String} {d : Desk} {ps : List Preset}

/-- What is read from storage that may fail: the presets that are stored, or the built-in ones. -/
theorem load_faulty (hraw : Storage.raw key d.storage = .text t)
    (hps : presetsOf key (.text t) = .ok ps) :
    ∃ s log, (load h key).run d =
        (.ok (if d.storage.failsRead then Preset.builtIn else ps), { d with storage := s, log }) ∧
      Storage.raw key s = .text t ∧ s.failsWrite = d.storage.failsWrite := by
  obtain ⟨e, s, hget, hraw', hwrite⟩ := Storage.getJson_faulty (h := h) hraw
  obtain ⟨log, hrun⟩ := run_load h key d
  refine ⟨s, log, ?_, hraw', hwrite⟩
  rw [hrun]
  simp only [onStorage, hget]
  cases d.storage.failsRead with
  | true => rfl
  | false => exact Prod.ext hps rfl

/-- What is stored in storage that may fail: the list, or what was stored before. -/
theorem save_faulty {key t : String} {d : Desk} (h : Handle)
    (hraw : Storage.raw key d.storage = .text t) (ps : List Preset) :
    ∃ d', (saveEntries h key (ps.map Preset.entries)).run d = (.ok (), d') ∧
      Storage.raw key d'.storage = .text (if d.storage.failsWrite then t else listText ps) := by
  obtain ⟨e, s, hset, hraw'⟩ := Storage.setItem_faulty (h := h) hraw (listText ps)
  obtain ⟨log, hrun⟩ := run_saveEntries h key ps d
  refine ⟨{ d with storage := s, log }, ?_, hraw'⟩
  rw [hrun]
  simp only [onStorage, hset]
  cases d.storage.failsWrite <;> rfl

/-- **What is stored after an edit**, whatever fails: the list stays if the write fails, and if the
read fails the edit is made on the built-in presets. -/
theorem raw_after_edit (hraw : Storage.raw key d.storage = .text t)
    (hps : presetsOf key (.text t) = .ok ps) (e : Edit) :
    Storage.raw key ((e.run h key).run d).2.storage =
      match e.outcome d.clock d.drawn (if d.storage.failsRead then Preset.builtIn else ps) with
      | .error _ => .text t
      | .ok qs => .text (if d.storage.failsWrite then t else listText qs) := by
  obtain ⟨s, log, hload, hkept, hwrite⟩ := load_faulty (h := h) hraw hps
  generalize (if d.storage.failsRead then Preset.builtIn else ps) = base at hload ⊢
  rw [← hwrite]
  cases e with
  | add name query =>
    simp only [Edit.run, add, append, bind_assoc]
    rw [run_bind_ok hload]
    have hid := run_freshId { d with storage := s, log }
    dsimp only [Edit.outcome] at hid ⊢
    cases hms : millisOf d.clock with
    | error fault =>
      rw [hms] at hid
      rw [run_bind_error hid]
      exact hkept
    | ok ms =>
      rw [hms] at hid
      rw [run_bind_ok hid]
      have hdrawn : Storage.raw key
          ({ d with storage := s, drawn := d.drawn + 1, log } : Desk).storage = .text t := hkept
      obtain ⟨d', hsave, hraw'⟩ := save_faulty h hdrawn
        (base ++ [⟨freshIdOf ms (d.drawn + 1), name, query⟩])
      have hentries : (base ++ [(⟨freshIdOf ms (d.drawn + 1), name, query⟩ : Preset)]).map
          Preset.entries =
          base.map Preset.entries ++
            [Preset.entriesOf (freshIdOf ms (d.drawn + 1)) (.text name) (.text query)] :=
        List.map_append
      rw [hentries] at hsave
      rw [run_bind_ok hsave]
      exact hraw'
  | remove id =>
    simp only [Edit.run, remove]
    rw [run_bind_ok hload]
    have hloaded : Storage.raw key ({ d with storage := s, log } : Desk).storage = .text t := hkept
    obtain ⟨d', hsave, hraw'⟩ := save_faulty h hloaded (base.filter fun p => !p.hasId (.text id))
    rw [save, hsave]
    dsimp only [Edit.outcome]
    rw [hraw']
    simp only [Preset.hasId_text]
    rfl

/-- If the read succeeds or the write fails, the stored value stays or becomes what the edit makes
of the stored list. -/
theorem untouched_or_intended (hraw : Storage.raw key d.storage = .text t)
    (hps : presetsOf key (.text t) = .ok ps) (e : Edit)
    (hfaults : d.storage.failsRead = false ∨ d.storage.failsWrite = true) :
    Storage.raw key ((e.run h key).run d).2.storage = .text t ∨
      ∃ qs, e.outcome d.clock d.drawn ps = .ok qs ∧
        Storage.raw key ((e.run h key).run d).2.storage = .text (listText qs) := by
  rw [raw_after_edit hraw hps e]
  rcases hfaults with hreads | hwrites
  · rw [hreads, if_neg (by decide)]
    cases e.outcome d.clock d.drawn ps with
    | error fault => exact .inl rfl
    | ok qs =>
      cases d.storage.failsWrite with
      | true => exact .inl rfl
      | false => exact .inr ⟨qs, rfl, rfl⟩
  · refine .inl ?_
    rw [hwrites]
    split <;> rfl

/-- If the read fails and the write succeeds, the stored value stays only where the edit makes
nothing of the built-in presets, and otherwise becomes what it makes of them. -/
theorem overwritten (hraw : Storage.raw key d.storage = .text t)
    (hps : presetsOf key (.text t) = .ok ps) (e : Edit)
    (hreads : d.storage.failsRead = true) (hwrites : d.storage.failsWrite = false) :
    Storage.raw key ((e.run h key).run d).2.storage =
      match e.outcome d.clock d.drawn Preset.builtIn with
      | .error _ => .text t
      | .ok qs => .text (listText qs) := by
  rw [raw_after_edit hraw hps e, hreads, hwrites]
  rfl

end Faults

/-- **An edit keeps the presets that it should keep** unless the read fails and the write succeeds;
then it keeps them only if they happen to be among what the edit makes of the built-in presets.  In
every other case the stored value stays or becomes what the edit makes of the stored list. -/
theorem edit_keeps_presets_iff (h : Handle) (key : String) (d : Desk) (ps : List Preset) (e : Edit)
    (hps : Represents (Storage.raw key d.storage) ps) :
    ((∃ qs, Represents (Storage.raw key ((e.run h key).run d).2.storage) qs ∧
        (ps.filter e.keeps).Sublist qs) ↔
      (d.storage.failsRead = true ∧ d.storage.failsWrite = false →
        ∀ qs, e.outcome d.clock d.drawn Preset.builtIn = .ok qs →
          (ps.filter e.keeps).Sublist qs)) ∧
    (¬ (d.storage.failsRead = true ∧ d.storage.failsWrite = false) →
      Storage.raw key ((e.run h key).run d).2.storage = Storage.raw key d.storage ∨
      ∃ qs, e.outcome d.clock d.drawn ps = .ok qs ∧
        Storage.raw key ((e.run h key).run d).2.storage = .text (listText qs)) := by
  obtain ⟨t, vs, hraw, -⟩ := id hps
  have hread := presetsOf_of_represents key hps
  have huntouched : ∃ qs, Represents (Storage.raw key d.storage) qs ∧
      (ps.filter e.keeps).Sublist qs := ⟨ps, hps, List.filter_sublist⟩
  have hsafe : ¬ (d.storage.failsRead = true ∧ d.storage.failsWrite = false) →
      d.storage.failsRead = false ∨ d.storage.failsWrite = true := by
    cases d.storage.failsRead <;> cases d.storage.failsWrite <;> simp
  rw [hraw] at hread huntouched ⊢
  refine ⟨⟨?_, fun hcondition => ?_⟩,
    fun hfaults => untouched_or_intended hraw hread e (hsafe hfaults)⟩
  · rintro ⟨qs, hqs, hsub⟩ ⟨hreads, hwrites⟩ rs hrs
    have hafter := overwritten (h := h) hraw hread e hreads hwrites
    rw [hrs] at hafter
    rw [hafter] at hqs
    have heq : rs = qs := by
      have hlist := presetsOf_of_represents key hqs
      rw [presetsOf_listText] at hlist
      exact Except.ok.inj hlist
    rwa [heq]
  · by_cases hfaults : d.storage.failsRead = true ∧ d.storage.failsWrite = false
    · have hafter := overwritten (h := h) hraw hread e hfaults.1 hfaults.2
      rw [hafter]
      cases houtcome : e.outcome d.clock d.drawn Preset.builtIn with
      | error fault => exact huntouched
      | ok qs => exact ⟨qs, represents_listText qs, hcondition hfaults qs houtcome⟩
    · rcases untouched_or_intended (h := h) hraw hread e (hsafe hfaults) with
        hafter | ⟨qs, hqs, hafter⟩
      · rw [hafter]
        exact huntouched
      · rw [hafter]
        exact ⟨qs, represents_listText qs, Edit.sublist_outcome hqs⟩

/-! ## A preset that is lost -/

/-- A preset of a user. -/
def mine : Preset := ⟨"mine", "Mine", "kind:function"⟩

/-- A desk on memory that holds that preset under the usual key.  Reads all fail or all succeed, and
so do writes. -/
def holding (reads writes : Bool) : Desk where
  storage := .memory
    { items := [(.text Vocabulary.presetsKey, .text (listText [mine]))]
      faults := ⟨fun _ => reads, fun _ => writes⟩ }

/-- If reads and writes fail together, a preset is kept by the addition of another one. -/
theorem edit_keeps_presets_iff_both_fail :
    ∃ qs, Represents (Storage.raw Vocabulary.presetsKey
        (((Edit.add "New" "state:dead").run 0 Vocabulary.presetsKey).run
          (holding true true)).2.storage) qs ∧ [mine].Sublist qs :=
  (edit_keeps_presets_iff 0 Vocabulary.presetsKey (holding true true) [mine]
    (.add "New" "state:dead") (represents_listText _)).1.2 fun hfaults =>
      absurd hfaults.2 (by decide)

/-- If only the read fails, a preset is lost by the removal of another one. -/
theorem saved_preset_lost :
    Represents (Storage.raw Vocabulary.presetsKey (holding true false).storage) [mine] ∧
    ¬ ∃ qs, Represents (Storage.raw Vocabulary.presetsKey
        (((Edit.remove "other").run 0 Vocabulary.presetsKey).run
          (holding true false)).2.storage) qs ∧ [mine].Sublist qs := by
  refine ⟨represents_listText _, ?_⟩
  rintro ⟨qs, hqs, hsub⟩
  have hraw : Storage.raw Vocabulary.presetsKey (holding true false).storage =
      .text (listText [mine]) := rfl
  have hafter := overwritten (h := 0) hraw (presetsOf_listText _ _) (.remove "other") rfl rfl
  dsimp only [Edit.outcome] at hafter
  rw [hafter] at hqs
  have hlist := presetsOf_of_represents Vocabulary.presetsKey hqs
  rw [presetsOf_listText] at hlist
  obtain rfl := Except.ok.inj hlist
  have hmem : mine ∈ Preset.builtIn.filter fun p => p.id != "other" := hsub.subset (by simp)
  exact absurd hmem (by decide)

end SymbolSieve.PresetStore
