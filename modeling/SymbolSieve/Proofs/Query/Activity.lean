import SymbolSieve.Proofs.Selection.Requested
import SymbolSieve.Proofs.Spec.Chips
import SymbolSieve.Proofs.Value.Shown
import SymbolSieve.Query.Canonical

/-!
# Filters that are active

Whether filters are active is asked in three places.  A dashboard looks whether any field has a
value other than its default, whoever saves a preset looks whether the canonical query is empty, and
a user looks at the search box and at the chips.  All of them agree as long as every field has a
value of its own kind, but for one value: an entry field that is false differs from its default, and
since it asks for nothing it is not written and has no chip.

## What is here

* `IsProper`: the values of a field's own kind that have a text.
* `Spec.Asks`: a field that asks for something; `isDefault_eq_false_iff` and `chips_eq_nil_iff`,
  what it has to do with the defaults and the chips.
* `Covers`: words that are there exactly if one of some fields asks for something;
  `exists_canonical`, the canonical query is empty if no field does.
* `InAccord`: what the three places say; `inAccord_of_proper`, that they say it.
-/

set_option autoImplicit false

namespace SymbolSieve

/-- A value of a field's own kind that has a text. -/
def IsProper (f : Field) (v : Value) : Prop := Filters.IsOwn f v ∧ ¬ v.HoldsLong

/-- What a query can give to a field is proper. -/
theorem isProper_of_admits {f : Field} {v : Value} (h : Query.Admits f v) : IsProper f v := by
  refine ⟨Filters.isOwn_of_admits h, ?_⟩
  cases f with
  | search | file => obtain ⟨t, rfl, -⟩ := h; exact nofun
  | kind => obtain ⟨k, -, rfl⟩ := h; exact nofun
  | state => rcases h with rfl | ⟨k, -, rfl⟩ <;> exact nofun
  | minRefs | maxRefs =>
    rcases h with rfl | ⟨n, rfl, hn⟩
    · exact nofun
    · rw [Value.holdsLong_int_iff]
      exact Nat.not_le.2 hn
  | hasCallers | hasCallees | entry => rcases h with rfl | ⟨b, rfl⟩ <;> exact nofun

namespace Spec

variable {s : Spec} {f : Field}

/-! ## Fields that ask for something -/

/-- A field that asks for something: it does not have its default, and it is no entry field that is
false. -/
def Asks (s : Spec) (f : Field) : Prop :=
  s.get f ≠ f.default ∧ ¬ (f = .entry ∧ s.get f = .bool false)

theorem asks_iff_of_ne_entry (h : f ≠ .entry) : s.Asks f ↔ s.get f ≠ f.default :=
  and_iff_left fun hentry => h hentry.1

/-- Filters are active if a field asks for something, or if the entry field is false. -/
theorem isDefault_eq_false_iff :
    s.isDefault = false ↔ (∃ f, s.Asks f) ∨ s.entry = .bool false := by
  have hactive : s.isDefault = false ↔ ∃ f, s.get f ≠ f.default := by
    rw [isDefault, List.all_eq_false]
    simp [Field.mem_all, Field.equal_default_iff]
  rw [hactive]
  constructor
  · rintro ⟨f, hf⟩
    by_cases hentry : f = .entry ∧ s.get f = .bool false
    · obtain ⟨rfl, hfalse⟩ := hentry
      exact .inr hfalse
    · exact .inl ⟨f, hf, hentry⟩
  · rintro (⟨f, hf, -⟩ | hfalse)
    · exact ⟨f, hf⟩
    · refine ⟨.entry, ?_⟩
      rw [show s.get .entry = .bool false from hfalse]
      nofun

/-- In proper filters, the fields with a chip are those that ask for something. -/
theorem hasChip_iff_asks (hs : s.Fieldwise IsProper) : s.hasChip f = true ↔ s.Asks f := by
  rw [hasChip_iff, Asks]
  refine and_congr_right fun hne => ?_
  constructor
  · rintro htrue ⟨hentry, hfalse⟩
    rw [htrue hentry] at hfalse
    cases hfalse
  · rintro hnot rfl
    -- An entry field of its own kind is true, if it is neither null nor false.
    obtain hnull | ⟨b, hb⟩ := (hs .entry).1
    · exact absurd hnull hne
    · cases b with
      | true => exact hb
      | false => exact absurd ⟨rfl, hb⟩ hnot

/-- A value that has a text can stand on a chip. -/
theorem exists_chipLabel (f : Field) {v : Value} (hv : ¬ v.HoldsLong) :
    ∃ t, chipLabel f v = .ok t := by
  have hvalue : ∃ t, chipValue v = .ok t := by
    rw [chipValue.eq_def]
    split
    · exact ⟨_, rfl⟩
    · exact v.exists_shown_iff.2 hv
  rw [chipLabel.eq_def]
  split
  · exact ⟨_, rfl⟩
  · exact ⟨_, rfl⟩
  · exact exists_map_iff.2 hvalue

theorem exists_chips (hs : s.Fieldwise IsProper) : ∃ cs, s.chips = .ok cs :=
  exists_mapM_iff.2 fun f _ => exists_map_iff.2 (exists_chipLabel f (hs f).2)

/-- There are no chips if no field but the search asks for anything. -/
theorem chips_eq_nil_iff (hs : s.Fieldwise IsProper) {cs : List Chip} (h : s.chips = .ok cs) :
    cs = [] ↔ ∀ f ∈ chipFields, ¬ s.Asks f := by
  rw [← List.map_eq_nil_iff (f := Chip.field), (chips_eq_ok_iff.1 h).1, List.filter_eq_nil_iff]
  simp only [hasChip_iff_asks hs]

end Spec

namespace Query

variable {s : Spec} {f : Field} {fs gs : List Field} {ws vs : List String}

/-! ## Words for the fields that ask for something -/

/-- Words that are there exactly if one of some fields asks for something. -/
structure Covers (s : Spec) (fs : List Field) (ws : List String) : Prop where
  eq_nil_iff : ws = [] ↔ ∀ f ∈ fs, ¬ s.Asks f
  nonempty : ∀ w ∈ ws, w ≠ ""

theorem Covers.append (hws : Covers s fs ws) (hvs : Covers s gs vs) :
    Covers s (fs ++ gs) (ws ++ vs) where
  eq_nil_iff := by
    rw [List.append_eq_nil_iff, hws.eq_nil_iff, hvs.eq_nil_iff, List.forall_mem_append]
  nonempty := List.forall_mem_append.2 ⟨hws.nonempty, hvs.nonempty⟩

/-- No word for a field that asks for nothing. -/
theorem covers_nil (h : ¬ s.Asks f) : Covers s [f] [] := ⟨by simpa using h, nofun⟩

/-- One word for a field that asks for something. -/
theorem covers_singleton {w : String} (h : s.Asks f) (hw : w ≠ "") : Covers s [f] [w] :=
  ⟨by simpa using h, by simpa using hw⟩

/-- A word with a label in front of a value that has a text. -/
theorem exists_labelled (label : String) (hlabel : label ≠ "") {v : Value} (hv : ¬ v.HoldsLong) :
    ∃ w, labelled label v = .ok w ∧ w ≠ "" := by
  obtain ⟨t, ht⟩ := v.exists_shown_iff.2 hv
  refine ⟨label ++ t, by rw [labelled, ht]; rfl, ?_⟩
  simp [hlabel]

/-- A field that is left out if it asks for nothing. -/
theorem exists_unlessThat (label : String) (hlabel : label ≠ "") {left : Bool}
    (hleft : left = true ↔ ¬ s.Asks f) (hv : ¬ (s.get f).HoldsLong) :
    ∃ ws, unlessThat left label (s.get f) = .ok ws ∧ Covers s [f] ws := by
  cases left with
  | true => exact ⟨[], rfl, covers_nil (hleft.1 rfl)⟩
  | false =>
    obtain ⟨w, hw, hne⟩ := exists_labelled label hlabel hv
    have hasks : s.Asks f := not_not.1 fun hnot => nomatch hleft.2 hnot
    exact ⟨[w], by simp [unlessThat, hw, Except.map], covers_singleton hasks hne⟩

/-- A bound is missing if it asks for nothing. -/
theorem isNull_iff_of_bound (hf : f = .minRefs ∨ f = .maxRefs) :
    (s.get f).isNull = true ↔ ¬ s.Asks f := by
  have hdefault : s.Asks f ↔ s.get f ≠ .null := by
    rcases hf with rfl | rfl <;> exact Spec.asks_iff_of_ne_entry (by decide)
  rw [hdefault]
  cases s.get f <;> simp [Value.isNull]

/-- The bounds are left out if there are none. -/
theorem exists_refsWords (hs : s.Fieldwise IsProper) :
    ∃ ws, refsWords s = .ok ws ∧ Covers s [.minRefs, .maxRefs] ws := by
  have hlow : s.minRefs.isNull = true ↔ ¬ s.Asks .minRefs := isNull_iff_of_bound (.inl rfl)
  have hhigh : s.maxRefs.isNull = true ↔ ¬ s.Asks .maxRefs := isNull_iff_of_bound (.inr rfl)
  rw [refsWords]
  split
  next hequal =>
    -- Both bounds are there and equal, and they are written as one.
    obtain ⟨w, hw, hne⟩ := exists_labelled "refs:" (by decide) (hs .minRefs).2
    have hw' : labelled "refs:" s.minRefs = .ok w := hw
    have hasks : s.Asks .minRefs := by
      rw [Bool.and_eq_true, Bool.not_eq_true'] at hequal
      exact not_not.1 fun hnot => by simp [hlow.2 hnot] at hequal
    refine ⟨[w], by rw [hw']; rfl, ⟨?_, by simpa using hne⟩⟩
    simp [hasks]
  next =>
    obtain ⟨low, hlow, hlows⟩ := exists_unlessThat "refs:>" (by decide) hlow
      (hs .minRefs).2
    obtain ⟨high, hhigh, hhighs⟩ := exists_unlessThat "refs:<" (by decide) hhigh
      (hs .maxRefs).2
    refine ⟨low ++ high, ?_, hlows.append hhighs⟩
    simp only [Spec.get] at hlow hhigh
    rw [hlow, hhigh]
    rfl

/-- Presence is asked for by one word. -/
theorem covers_presenceWords (hf : f = .hasCallers ∨ f = .hasCallees) (hs : s.Fieldwise IsProper)
    (name : String) (hname : name ≠ "") : Covers s [f] (presenceWords name (s.get f)) := by
  have hown : s.get f = .null ∨ ∃ b, s.get f = .bool b := by
    rcases hf with rfl | rfl
    · exact (hs .hasCallers).1
    · exact (hs .hasCallees).1
  have hasks : s.Asks f ↔ s.get f ≠ .null := by
    rcases hf with rfl | rfl <;> exact Spec.asks_iff_of_ne_entry nofun
  rcases hown with hnull | ⟨b, hb⟩
  · rw [hnull]
    exact covers_nil (by simp [hasks, hnull])
  · rw [hb]
    cases b <;> exact covers_singleton (by simp [hasks, hb]) (by simp [hname])

/-- Only an entry field that is true is written. -/
theorem covers_entryWords (hs : s.Fieldwise IsProper) :
    Covers s [.entry] (entryWords s.entry) := by
  have hentry : s.get .entry = s.entry := rfl
  obtain hnull | ⟨b, hb⟩ := (hs .entry).1
  · rw [← hentry, hnull]
    exact covers_nil fun h => h.1 hnull
  · rw [← hentry, hb]
    cases b with
    | true => exact covers_singleton ⟨by simp [hb, Field.default], by simp [hb]⟩ (by decide)
    | false => exact covers_nil fun h => h.2 ⟨rfl, hb⟩

/-- The search is written as it is, unless it is empty. -/
theorem exists_searchWords (hs : s.Fieldwise IsProper) :
    ∃ ws, searchWords s = .ok ws ∧ Covers s [.search] ws := by
  obtain ⟨t, ht⟩ := (hs .search).1
  have hsearch : s.search = .text t := ht
  have hasks : s.Asks .search ↔ t ≠ "" := by
    rw [Spec.asks_iff_of_ne_entry (f := .search) nofun, ht]
    simp [Field.default]
  rw [searchWords, hsearch]
  by_cases hempty : t = ""
  · subst hempty
    exact ⟨[], rfl, covers_nil (by simp [hasks])⟩
  · refine ⟨[t], ?_, covers_singleton (hasks.2 hempty) hempty⟩
    simp [Value.truthy, hempty]

/-- **The words behind the search text** are there for the fields that can have a chip. -/
theorem exists_labelledWords (hs : s.Fieldwise IsProper) :
    ∃ ws, labelledWords s = .ok ws ∧ Covers s Spec.chipFields ws := by
  have hall : ∀ f : Field, f.default = .text "all" →
      ((s.get f).equal (.text "all") = true ↔ ¬ s.Asks f) := by
    intro f hf
    rw [Spec.asks_iff_of_ne_entry (by rintro rfl; cases hf), hf, not_not]
    exact Value.equal_text_right_iff _ _
  have hfile : (!s.file.truthy) = true ↔ ¬ s.Asks .file := by
    obtain ⟨t, ht⟩ := (hs .file).1
    have hget : s.file = .text t := ht
    rw [Spec.asks_iff_of_ne_entry (f := .file) nofun, ht, hget]
    simp [Value.truthy, Field.default]
  obtain ⟨kind, hkind, hkinds⟩ := exists_unlessThat "kind:" (by decide)
    (hall .kind rfl) (hs .kind).2
  obtain ⟨state, hstate, hstates⟩ := exists_unlessThat "state:" (by decide)
    (hall .state rfl) (hs .state).2
  obtain ⟨file, hfile, hfiles⟩ := exists_unlessThat "file:" (by decide) hfile
    (hs .file).2
  obtain ⟨refs, hrefs, hrefss⟩ := exists_refsWords hs
  simp only [Spec.get] at hkind hstate hfile
  refine ⟨_, ?_, (((((hkinds.append hstates).append hfiles).append hrefss).append
    (covers_presenceWords (.inl rfl) hs "callers" (by decide))).append
    (covers_presenceWords (.inr rfl) hs "callees" (by decide))).append
    (covers_entryWords hs)⟩
  rw [labelledWords, hkind, hstate, hfile, hrefs]
  rfl

theorem joined_eq_empty_iff (h : ∀ w ∈ ws, w ≠ "") : Text.joined ws = "" ↔ ws = [] := by
  match ws with
  | [] => exact iff_of_true rfl rfl
  | [w] => simpa [Text.joined] using h w List.mem_cons_self
  | w :: v :: ws => simp [Text.joined]

/-- **The canonical query of proper filters** is empty exactly if no field asks for anything. -/
theorem exists_canonical (hs : s.Fieldwise IsProper) :
    ∃ t, canonical s = .ok t ∧ (t = "" ↔ ∀ f, ¬ s.Asks f) := by
  obtain ⟨rest, hrest, hcovers⟩ := exists_labelledWords hs
  obtain ⟨search, hsearch, hsearches⟩ := exists_searchWords hs
  have hall := hsearches.append hcovers
  refine ⟨Text.joined (search ++ rest), by rw [canonical, hrest, hsearch]; rfl, ?_⟩
  rw [joined_eq_empty_iff hall.nonempty, hall.eq_nil_iff]
  exact ⟨fun h f => h f f.mem_all, fun h f _ => h f⟩

end Query

/-! ## What the three places say -/

/-- The three places agree: filters are active exactly if the canonical query is not empty or the
entry field is false, and the canonical query is not empty exactly if there is a search text or a
chip. -/
def InAccord (s : Spec) : Prop :=
  ∃ query chips, Query.canonical s = .ok query ∧ s.chips = .ok chips ∧
    (s.isDefault = false ↔ query ≠ "" ∨ s.entry = .bool false) ∧
    (query ≠ "" ↔ s.search ≠ .text "" ∨ chips ≠ [])

/-- **All places agree** on proper filters. -/
theorem inAccord_of_proper {s : Spec} (hs : s.Fieldwise IsProper) : InAccord s := by
  obtain ⟨query, hquery, hempty⟩ := Query.exists_canonical hs
  obtain ⟨chips, hchips⟩ := Spec.exists_chips hs
  have hasked : query ≠ "" ↔ ∃ f, s.Asks f := by
    rw [Ne, hempty, not_forall_not]
  have hsearch : s.search ≠ .text "" ↔ s.Asks .search :=
    (Spec.asks_iff_of_ne_entry (f := .search) nofun).symm
  refine ⟨query, chips, hquery, hchips, ?_, ?_⟩
  · rw [hasked, Spec.isDefault_eq_false_iff]
  · rw [hasked, hsearch, Ne, Spec.chips_eq_nil_iff hs hchips]
    constructor
    · rintro ⟨f, hf⟩
      by_cases hself : f = .search
      · exact .inl (hself ▸ hf)
      · exact .inr fun hnone => hnone f (Spec.mem_chipFields_iff.2 hself) hf
    · rintro (hf | hsome)
      · exact ⟨_, hf⟩
      · simp only [not_forall, not_not] at hsome
        obtain ⟨f, -, hf⟩ := hsome
        exact ⟨f, hf⟩

end SymbolSieve
