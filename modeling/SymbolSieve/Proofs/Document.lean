import SymbolSieve.Document
import SymbolSieve.Proofs.Json.Plain

/-!
# Entries of laid-over documents

What a document has under a key, after it was laid over another one or a value was written into it.
Laying over and writing also keep to what can be written and read again.

## What is here

* `get?_overlay`: an entry of a document that was laid over another one.
* `get?_restore_of_ne`, `get?_putAt_of_ne`: an entry of a restored document, and of one with a value
  at a path.
* `Sound`: documents that can be stored and come back as they are; `sound_default`, `sound_restore`.
-/

set_option autoImplicit false

namespace SymbolSieve.Document

open Json

/-! ## Entries -/

/-- **An entry of a document that was laid over another one** depends on the entries under its key.
-/
theorem get?_overlay (key : String) {base above : Entries} (h : (Assoc.keys above).Nodup) :
    Assoc.get? key (overlay base above) = match Assoc.get? key above with
      | none => Assoc.get? key base
      | some v => some (overlayValue (Assoc.get? key base) v) := by
  induction above generalizing base with
  | nil => simp [Assoc.get?]
  | cons e above ih =>
    obtain ⟨k, v⟩ := e
    obtain ⟨hnot, hrest⟩ := List.nodup_cons.1 h
    rw [overlay, ih hrest]
    by_cases hk : k = key
    · subst hk
      have hnone : Assoc.get? k above = none := Assoc.get?_eq_none_iff.2 hnot
      simp [Assoc.get?, hnone]
    · rw [Assoc.get?_put_of_ne _ _ (Ne.symm hk)]
      simp [Assoc.get?, hk]

theorem overlayValue_none (v : Value) : overlayValue none v = v := by
  cases v <;> simp [overlayValue]

/-- An entry of a restored document that is neither the version nor one of the filters. -/
theorem get?_restore_of_ne {key : String} (hversion : key ≠ "version") (hfilters : key ≠ "filters")
    {saved : Entries} (h : (Assoc.keys saved).Nodup) :
    Assoc.get? key (restore saved) = Assoc.get? key saved := by
  have hdefault : Assoc.get? key default = none := by
    simp [default, Assoc.get?, hversion.symm, hfilters.symm]
  rw [restore, Assoc.get?_put_of_ne _ _ hversion, get?_overlay key h, hdefault]
  cases Assoc.get? key saved with
  | none => rfl
  | some v => exact congrArg some (overlayValue_none v)

theorem get?_restore_version (saved : Entries) :
    Assoc.get? "version" (restore saved) = some (.int Vocabulary.stateVersion) :=
  Assoc.get?_put_self ..

/-- A value at a path changes only the entry where the path begins. -/
theorem get?_putAt_of_ne {key : String} (value : Value) {path : List String} (doc : Entries)
    (h : path.head? ≠ some key) : Assoc.get? key (putAt value path doc) = Assoc.get? key doc := by
  match path with
  | [] => rfl
  | [k] => exact Assoc.get?_put_of_ne _ _ (by rintro rfl; exact h rfl)
  | k :: l :: rest => exact Assoc.get?_put_of_ne _ _ (by rintro rfl; exact h rfl)

theorem nodup_keys_putAt (value : Value) (path : List String) {doc : Entries}
    (h : (Assoc.keys doc).Nodup) : (Assoc.keys (putAt value path doc)).Nodup := by
  match path with
  | [] => exact h
  | [k] => exact Assoc.nodup_keys_put h
  | k :: l :: rest => exact Assoc.nodup_keys_put h

/-! ## Soundness -/

/-- A document that can be stored and comes back as it is. -/
def Sound (doc : Entries) : Prop := Faithful depthLimit (.map doc)

theorem faithful_map_iff {depth : Nat} {es : Entries} :
    Faithful (depth + 1) (.map es) ↔
      (Assoc.keys es).Nodup ∧ ∀ e ∈ es, Faithful depth e.2 := by
  simp only [Faithful, Plain, plainEntries_iff, obstacle?, Nat.succ_ne_zero, if_false,
    Nat.add_sub_cancel, obstacleEntries?_eq_none_iff]
  constructor
  · rintro ⟨⟨hnodup, hplain⟩, hobstacle⟩
    exact ⟨hnodup, fun e he => ⟨hplain e he, hobstacle e he⟩⟩
  · rintro ⟨hnodup, h⟩
    exact ⟨⟨hnodup, fun e he => (h e he).1⟩, fun e he => (h e he).2⟩

theorem faithful_put {depth : Nat} {key : String} {v : Value} {es : Entries}
    (hv : Faithful depth v) (h : Faithful (depth + 1) (.map es)) :
    Faithful (depth + 1) (.map (Assoc.put key v es)) := by
  rw [faithful_map_iff] at h ⊢
  refine ⟨Assoc.nodup_keys_put h.1, fun e he => ?_⟩
  rcases Assoc.mem_of_mem_put he with rfl | hmem
  · exact hv
  · exact h.2 e hmem

mutual

/-- Laying a document over another one keeps to what can be stored. -/
theorem faithful_overlay {depth : Nat} {base : Entries} (above : List (String × Value))
    (hbase : Faithful (depth + 1) (.map base)) (habove : ∀ e ∈ above, Faithful depth e.2) :
    Faithful (depth + 1) (.map (overlay base above)) := by
  match above with
  | [] => rwa [overlay]
  | (k, v) :: rest =>
    rw [overlay]
    refine faithful_overlay rest (faithful_put ?_ hbase) fun e he => habove e (by simp [he])
    refine faithful_overlayValue v (fun w hw => ?_) (habove (k, v) (by simp))
    exact (faithful_map_iff.1 hbase).2 _ (Assoc.mem_of_get?_eq_some hw)
termination_by structural above

theorem faithful_overlayValue {depth : Nat} {below : Option Value} (v : Value)
    (hbelow : ∀ w, below = some w → Faithful depth w) (hv : Faithful depth v) :
    Faithful depth (overlayValue below v) := by
  cases v with
  | map entries =>
    obtain ⟨depth, rfl⟩ : ∃ d, depth = d + 1 := by
      refine Nat.exists_eq_succ_of_ne_zero ?_
      rintro rfl
      simp [Faithful, obstacle?] at hv
    by_cases hmap : ∃ base, below = some (.map base)
    · obtain ⟨base, rfl⟩ := hmap
      rw [overlayValue]
      exact faithful_overlay entries (hbelow _ rfl) (faithful_map_iff.1 hv).2
    · have hkept : overlayValue below (.map entries) = .map entries := by
        rw [overlayValue]
        exact fun base heq => hmap ⟨base, heq⟩
      rwa [hkept]
  | _ => simpa [overlayValue] using hv
termination_by structural v

end

/-- The depth that is left inside a document. -/
def innerDepth : Nat := 959

theorem sound_iff {doc : Entries} :
    Sound doc ↔ (Assoc.keys doc).Nodup ∧ ∀ e ∈ doc, Faithful innerDepth e.2 :=
  faithful_map_iff

theorem faithful_text (depth : Nat) (t : String) : Faithful depth (.text t) := ⟨trivial, rfl⟩

theorem faithful_version (depth : Nat) : Faithful depth (.int Vocabulary.stateVersion) := by
  have hwritable : writableInt Vocabulary.stateVersion = true :=
    writableInt_iff.2 (Nat.one_lt_pow (by decide) (by decide))
  exact ⟨trivial, by rw [obstacle?, if_pos hwritable]⟩

theorem Sound.put {doc : Entries} (h : Sound doc) (key : String) {v : Value}
    (hv : Faithful innerDepth v) : Sound (Assoc.put key v doc) :=
  faithful_put hv h

theorem sound_default : Sound default := by
  refine sound_iff.2 ⟨by decide, fun e he => ?_⟩
  rcases (by simpa [default] using he : e = _ ∨ e = _) with rfl | rfl
  · exact faithful_version innerDepth
  · refine faithful_map_iff.2 ⟨by decide, fun e he => ?_⟩
    obtain ⟨f, hf, rfl⟩ := List.mem_map.1 he
    rcases (by simpa [Field.durable] using hf : f = _ ∨ f = _ ∨ f = _ ∨ f = _) with
      rfl | rfl | rfl | rfl <;> exact faithful_text _ _

/-- A document that was read is sound once it is restored. -/
theorem sound_restore {saved : Entries} (h : Sound saved) : Sound (restore saved) :=
  Sound.put (faithful_overlay saved sound_default (sound_iff.1 h).2) _ (faithful_version innerDepth)

end SymbolSieve.Document
