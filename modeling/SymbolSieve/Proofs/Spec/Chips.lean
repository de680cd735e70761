import Mathlib.Data.List.Nodup
import SymbolSieve.Engine.Change
import SymbolSieve.Engine.Chips
import SymbolSieve.Proofs.Outcome

/-!
# Chips that are removed

Which filters have chips, which of them a key can remove, and what is put in their place is said in
three places.  They agree: removing the filter behind a chip takes that chip away and nothing else,
and what has no chip cannot be removed, but for an entry filter that asks for nothing.

Chips show values as text, so a specification with a value that has no text has no chips at all.
Everything here is about those that have chips.

## What is here

* `Spec.after`: what a change leaves of a specification, whether it can be made or not.
* `chips_eq_ok_iff`: the chips of a specification by the fields that have one.
* `chips_after_removal`: the chips that are left when the filter behind one of them is removed.
* `after_of_no_chipKey`: the keys that remove nothing.
* `Cleared`: what is left when the filters behind all chips have been removed;
  `cleared_withoutEach`, in whatever order that is done.
-/

set_option autoImplicit false

namespace SymbolSieve

theorem Value.equal_null_right_iff (v : Value) : v.equal .null = true ↔ v = .null := by
  cases v <;> simp [equal, compareNumbers?, number?, integer?]

/-- Only the default of a field equals it. -/
theorem Field.equal_default_iff (f : Field) (v : Value) :
    v.equal f.default = true ↔ v = f.default := by
  cases f with
  | search | kind | state | file => exact v.equal_text_right_iff _
  | _ => exact v.equal_null_right_iff

/-- The key under which the filter behind a chip is removed. -/
def Spec.Chip.key (c : Spec.Chip) : Value := .text c.field.wireName

namespace Spec

variable {s t : Spec} {f g : Field} {c : Chip} {cs before rest : List Chip}

/-! ## Chips -/

/-- Every field but the search can have a chip. -/
theorem mem_chipFields_iff : f ∈ chipFields ↔ f ≠ .search := by
  cases f <;> decide

/-- The chip of a field. -/
def chipOf (s : Spec) (f : Field) : Except ValueFault Chip :=
  (chipLabel f (s.get f)).map fun label => ⟨f, s.get f, label⟩

theorem field_of_chipOf (h : s.chipOf f = .ok c) : c.field = f := by
  obtain ⟨label, -, rfl⟩ := map_eq_ok_iff.1 h
  rfl

theorem chipOf_congr (h : t.get f = s.get f) : t.chipOf f = s.chipOf f := by
  rw [chipOf, h, chipOf]

theorem hasChip_congr (h : t.get f = s.get f) : t.hasChip f = s.hasChip f := by
  rw [hasChip, h, hasChip]

theorem hasChip_iff : s.hasChip f = true ↔
    s.get f ≠ f.default ∧ (f = .entry → s.get f = .bool true) := by
  rw [hasChip, Bool.and_eq_true, Bool.not_eq_true', ← Bool.not_eq_true, Field.equal_default_iff,
    Bool.or_eq_true, bne_iff_ne, imp_iff_not_or]
  split <;> simp_all

/-- A list of chips, by what each of them is. -/
theorem forall₂_chipOf_iff {fs : List Field} :
    List.Forall₂ (fun f c => s.chipOf f = .ok c) fs cs ↔
      cs.map Chip.field = fs ∧ ∀ c ∈ cs, s.chipOf c.field = .ok c := by
  induction cs generalizing fs with
  | nil => simp [@eq_comm _ []]
  | cons c cs ih =>
    rw [List.forall₂_cons_right_iff, List.forall_mem_cons, List.map_cons]
    constructor
    · rintro ⟨f, fs, hc, hcs, rfl⟩
      obtain rfl := field_of_chipOf hc
      obtain ⟨rfl, hall⟩ := ih.1 hcs
      exact ⟨rfl, hc, hall⟩
    · rintro ⟨rfl, hc, hall⟩
      exact ⟨c.field, _, hc, ih.2 ⟨rfl, hall⟩, rfl⟩

/-- **The chips of a specification** stand for the fields that have one, each with its value and a
label that says it. -/
theorem chips_eq_ok_iff : s.chips = .ok cs ↔
    cs.map Chip.field = chipFields.filter s.hasChip ∧ ∀ c ∈ cs, s.chipOf c.field = .ok c :=
  mapM_eq_ok_iff.trans forall₂_chipOf_iff

theorem mem_fields_iff (h : s.chips = .ok cs) :
    f ∈ cs.map Chip.field ↔ f ∈ chipFields ∧ s.hasChip f = true := by
  rw [(chips_eq_ok_iff.1 h).1, List.mem_filter]

/-- No field has two chips. -/
theorem nodup_fields (h : s.chips = .ok cs) : (cs.map Chip.field).Nodup := by
  have hall : chipFields.Nodup := by decide
  rw [(chips_eq_ok_iff.1 h).1]
  exact hall.filter _

/-! ## Removals -/

/-- What a change leaves of a specification; one that cannot be made leaves it as it is. -/
def after (s : Spec) (c : Change) : Spec := (c.apply s).toOption.getD s

theorem after_of_ok {c : Change} (h : c.apply s = .ok t) : s.after c = t := by
  rw [after, h]
  rfl

theorem after_of_error {c : Change} {fault : ValueFault} (h : c.apply s = .error fault) :
    s.after c = s := by
  rw [after, h]
  rfl

/-- The filter behind a chip gets its default. -/
theorem after_removeFilter (s : Spec) (hf : f ∈ chipFields) :
    s.after (.removeFilter (.text f.wireName)) = s.set f f.default := by
  cases f with
  | search => exact absurd rfl (mem_chipFields_iff.1 hf)
  | _ => rfl

/-- **A key that belongs to no chip** changes nothing. -/
theorem after_of_no_chipKey (s : Spec) {key : Value}
    (h : ∀ f ∈ chipFields, key ≠ .text f.wireName) : s.after (.removeFilter key) = s := by
  show (Change.withoutFilter s key).toOption.getD s = s
  rw [Change.withoutFilter.eq_def]
  split
  next name =>
    split
    next => rfl
    next => rfl
    next f hsearch hname =>
      obtain rfl : f.wireName = name := by simpa using List.find?_some hname
      exact absurd rfl (h f (mem_chipFields_iff.2 hsearch))
  next => split <;> rfl

theorem hasChip_set_default (s : Spec) (f g : Field) :
    (s.set f f.default).hasChip g = (s.hasChip g && g != f) := by
  by_cases hg : g = f
  · subst hg
    have hnone : (s.set g g.default).hasChip g ≠ true := fun h =>
      (hasChip_iff.1 h).1 (get_set_self ..)
    simpa using hnone
  · rw [hasChip_congr (get_set_of_ne s _ hg)]
    simp [hg]

/-- No other chip stands for the field of a chip. -/
theorem field_not_mem_others (h : s.chips = .ok (before ++ c :: rest)) :
    c.field ∉ (before ++ rest).map Chip.field := by
  have hnodup := nodup_fields h
  rw [List.map_append, List.map_cons, List.nodup_middle, List.nodup_cons, ← List.map_append]
    at hnodup
  exact hnodup.1

/-- The fields that have chips when the filter behind one of them has been removed. -/
theorem fields_set_default (h : s.chips = .ok (before ++ c :: rest)) :
    (before ++ rest).map Chip.field =
      chipFields.filter (s.set c.field c.field.default).hasChip := by
  have hfilter : chipFields.filter (s.set c.field c.field.default).hasChip =
      (chipFields.filter s.hasChip).filter (· != c.field) := by
    rw [List.filter_filter]
    exact List.filter_congr fun g _ => by rw [hasChip_set_default, Bool.and_comm]
  have hbefore := field_not_mem_others h
  rw [List.map_append, List.mem_append, not_or] at hbefore
  rw [hfilter, ← (chips_eq_ok_iff.1 h).1, ← (nodup_fields h).erase_eq_filter]
  simp only [List.map_append, List.map_cons]
  rw [List.erase_append_right _ hbefore.1, List.erase_cons_head]

/-- **Removing the filter behind a chip** takes the chip away. The others stay, in their order and
with their values and labels, and so do the other fields. -/
theorem chips_after_removal (h : s.chips = .ok (before ++ c :: rest)) :
    (s.after (.removeFilter c.key)).chips = .ok (before ++ rest) ∧
      ∀ f, f ≠ c.field → (s.after (.removeFilter c.key)).get f = s.get f := by
  have hc := (mem_fields_iff h).1 (List.mem_map_of_mem (f := Chip.field) (by simp : c ∈ _))
  rw [Chip.key, after_removeFilter s hc.1]
  refine ⟨chips_eq_ok_iff.2 ⟨fields_set_default h, fun d hd => ?_⟩,
    fun f hf => get_set_of_ne s _ hf⟩
  have hne : d.field ≠ c.field := fun heq =>
    field_not_mem_others h (heq ▸ List.mem_map_of_mem hd)
  rw [chipOf_congr (get_set_of_ne s _ hne)]
  exact (chips_eq_ok_iff.1 h).2 d (by simp only [List.mem_append, List.mem_cons] at hd ⊢; tauto)

/-! ## Removing all -/

/-- What is left of a specification when filters have been removed one after the other. -/
def withoutEach (s : Spec) (keys : List Value) : Spec :=
  keys.foldl (fun s key => s.after (.removeFilter key)) s

theorem get_withoutEach (s : Spec) {fs : List Field} (hfs : ∀ f ∈ fs, f ∈ chipFields) (g : Field) :
    (s.withoutEach (fs.map fun f => .text f.wireName)).get g =
      if g ∈ fs then g.default else s.get g := by
  induction fs generalizing s with
  | nil => rfl
  | cons f fs ih =>
    obtain ⟨hf, hfs⟩ := List.forall_mem_cons.1 hfs
    rw [List.map_cons, withoutEach, List.foldl_cons, ← withoutEach, after_removeFilter s hf,
      ih _ hfs]
    by_cases hg : g = f
    · subst hg
      simp
    · simp [hg, get_set_of_ne s f.default hg]

/-- What is expected of the filters that are left when those behind all chips have been removed:
what can have no chip is as before, and everything else has its default. -/
structure Cleared (s t : Spec) : Prop where
  search : t.search = s.search
  /-- An entry filter that asks for nothing has no chip. -/
  entry : s.entry ≠ .bool true → t.entry = s.entry
  others : ∀ f, f ≠ .search → (f = .entry → s.entry = .bool true) → t.get f = f.default

/-- **Removing the filters behind all chips**, in whatever order, leaves nothing that has one. -/
theorem cleared_withoutEach {order : List Chip} (h : s.chips = .ok cs) (hperm : order.Perm cs) :
    s.Cleared (s.withoutEach (order.map Chip.key)) := by
  have hmem : ∀ f, f ∈ order.map Chip.field ↔ f ∈ chipFields ∧ s.hasChip f = true := fun f => by
    rw [(hperm.map Chip.field).mem_iff, mem_fields_iff h]
  have hkeys : order.map Chip.key = (order.map Chip.field).map fun f => .text f.wireName := by
    rw [List.map_map]
    rfl
  have hget := fun g => get_withoutEach s (fun f hf => ((hmem f).1 hf).1) g
  rw [← hkeys] at hget
  constructor
  · have hsearch : Field.search ∉ order.map Chip.field := fun hin =>
      mem_chipFields_iff.1 ((hmem _).1 hin).1 rfl
    exact (hget .search).trans (if_neg hsearch)
  · intro hentry
    have hout : Field.entry ∉ order.map Chip.field := fun hin =>
      hentry ((hasChip_iff.1 ((hmem _).1 hin).2).2 rfl)
    exact (hget .entry).trans (if_neg hout)
  · intro f hsearch hentry
    rw [hget]
    split
    next => rfl
    next hout =>
      -- a field that can have a chip and has none must have its default
      by_contra hne
      refine hout ((hmem f).2 ⟨mem_chipFields_iff.2 hsearch, hasChip_iff.2 ⟨hne, ?_⟩⟩)
      rintro rfl
      exact hentry rfl

end Spec

end SymbolSieve
