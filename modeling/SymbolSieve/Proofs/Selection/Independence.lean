import SymbolSieve.Proofs.Selection.Filters
import SymbolSieve.Proofs.Value.Shown

/-!
# Filters one by one

The tests of a record are made one after the other and end at the first that fails.  As long as none
of them has a fault, the order does not matter: each field says yes or no by itself, a record is
selected if all say yes, and records can be filtered by one field after the other.  The test of the
kind is the only one that can have a fault on a record whose other fields are as they should be,
because it shows the kind as text, whatever it is.

## What is here

* `Spec.only`, `narrow`: specifications of a single field, and filtering by several specifications
  one after the other.
* `selects_only`: a specification of a single field makes the test of that field.
* `select_eq_filter`, `narrow_only`: what is selected, and what is left after filtering field by
  field, if all tests have results.
* `Regular`: records whose names, paths and counts are as they should be, or missing.
* `Independent`, `independent_iff`: the fields of a specification are independent of each other,
  and exactly when they are.
-/

set_option autoImplicit false

namespace SymbolSieve

open Record Selection

/-! ## Specifications of a single field -/

/-- The specification that has one field of another one, and defaults in all others. -/
def Spec.only (s : Spec) (f : Field) : Spec := Spec.unconstrained.set f (s.get f)

namespace Selection

/-- The records that are left when a list is filtered by some specifications one after the other. -/
def narrow (specs : List Spec) (records : List Value) : Except ValueFault (List Value) :=
  specs.foldlM (fun rs s => select s (.list rs)) records

variable {s : Spec} {r : Value} {records : List Value}

/-- The test of a field looks at that field only. -/
theorem passes_congr {t : Spec} {f : Field} (h : s.get f = t.get f) (r : Value) :
    passes s r f = passes t r f := by
  cases f <;> simp only [passes] <;> simp only [Spec.get] at h <;> rw [h]

/-- A field with its default is passed by every record. -/
theorem passes_of_default {f : Field} (h : s.get f = f.default) (r : Value) :
    passes s r f = .ok true := by
  have hdefault : passes Spec.unconstrained r f = .ok true := by
    cases f with
    | kind => simp [passes, passesKind, Spec.unconstrained, Field.default]
    | state => simp [passes, passesState, Spec.unconstrained, Field.default]
    | _ => rfl
  rw [← hdefault]
  exact passes_congr (by rw [h, Spec.get_unconstrained]) r

/-- Tests of which only one can fail amount to that one. -/
theorem passesAll_of_others {f : Field} (h : ∀ g, g ≠ f → passes s r g = .ok true)
    (fs : List Field) :
    passesAll s r fs = if f ∈ fs then passes s r f else .ok true := by
  induction fs with
  | nil => rfl
  | cons g fs ih =>
    rw [passesAll, ih]
    by_cases hg : g = f
    · subst hg
      cases passes s r g with
      | error e => simp [bind, Except.bind]
      | ok b => cases b <;> simp [bind, Except.bind, pure, Except.pure]
    · have hf : f ∈ g :: fs ↔ f ∈ fs := by
        rw [List.mem_cons, or_iff_right fun heq => hg heq.symm]
      simp [h g hg, hf, bind, Except.bind]

/-- **A specification of a single field makes the test of that field.** -/
theorem selects_only (s : Spec) (r : Value) (f : Field) : selects (s.only f) r = passes s r f := by
  have hothers : ∀ g, g ≠ f → passes (s.only f) r g = .ok true := by
    intro g hg
    refine passes_of_default ?_ r
    rw [Spec.only, Spec.get_set_of_ne _ _ hg, Spec.get_unconstrained]
  rw [selects, passesAll_of_others hothers, if_pos (Field.mem_all f)]
  exact passes_congr (by rw [Spec.only, Spec.get_set_self]) r

/-! ## Tests that have results -/

/-- What the test of a field says, a fault counting as a failure. -/
def verdict (s : Spec) (f : Field) (r : Value) : Bool :=
  match passes s r f with
  | .ok b => b
  | .error _ => false

/-- Every test of a record has a result. -/
def Tested (s : Spec) (r : Value) : Prop := ∀ f, ∃ b, passes s r f = .ok b

theorem Tested.passes_eq (h : Tested s r) (f : Field) : passes s r f = .ok (verdict s f r) := by
  obtain ⟨b, hb⟩ := h f
  rw [verdict, hb]

theorem verdict_of_default {f : Field} (h : s.get f = f.default) (r : Value) :
    verdict s f r = true := by
  rw [verdict, passes_of_default h]

/-- When a field gets its default, the test of a field is passed or stays the same. -/
theorem passes_set_default (s : Spec) (f g : Field) (r : Value) :
    passes (s.set f f.default) r g = .ok true ∨
      passes (s.set f f.default) r g = passes s r g := by
  by_cases hg : g = f
  · subst hg
    exact .inl (passes_of_default (Spec.get_set_self s g g.default) r)
  · exact .inr (passes_congr (Spec.get_set_of_ne s f.default hg) r)

theorem Tested.set_default (h : Tested s r) (f : Field) : Tested (s.set f f.default) r := by
  intro g
  rcases passes_set_default s f g r with heq | heq
  · exact ⟨true, heq⟩
  · rw [heq]
    exact h g

theorem verdict_set_default {g : Field} (h : verdict s g r = true) (f : Field) :
    verdict (s.set f f.default) g r = true := by
  rcases passes_set_default s f g r with heq | heq
  · rw [verdict, heq]
  · rwa [verdict, heq, ← verdict]

/-- If every test has a result, a record is selected if it passes all of them. -/
theorem Tested.selects_eq (h : Tested s r) :
    selects s r = .ok (Field.all.all (verdict s · r)) :=
  passesAll_eq_all h.passes_eq Field.all

/-- Where every record has a verdict, those with a good one are selected. -/
theorem selectBy_eq_filter {α : Type} {record : α → Value} {xs : List α} {p : Value → Bool}
    (h : ∀ x ∈ xs, selects s (record x) = .ok (p (record x))) :
    selectBy record s xs = .ok (xs.filter fun x => p (record x)) := by
  induction xs with
  | nil => rfl
  | cons x xs ih =>
    obtain ⟨hx, hxs⟩ := List.forall_mem_cons.1 h
    simp only [selectBy, hx, ih hxs, bind, Except.bind, pure, Except.pure, List.filter_cons]

theorem select_list (s : Spec) (records : List Value) :
    select s (.list records) = selectBy id s records := rfl

theorem select_eq_filter {p : Value → Bool} (h : ∀ r ∈ records, selects s r = .ok (p r)) :
    select s (.list records) = .ok (records.filter p) := by
  rw [select_list]
  exact selectBy_eq_filter h

/-- The records of a list that are chosen are all as they should be exactly if each record has a
verdict and is so if it is chosen. -/
theorem exists_selectBy_iff {P : Value → Prop} {spec : Spec} {records : List Value} :
    (∃ chosen, selectBy id spec records = .ok chosen ∧ ∀ r ∈ chosen, P r) ↔
      ∀ r ∈ records, ∃ chosen, selects spec r = .ok chosen ∧ (chosen = true → P r) := by
  induction records with
  | nil => simp [selectBy]
  | cons r records ih =>
    rw [List.forall_mem_cons, ← ih]
    constructor
    · rintro ⟨chosen, hselect, hall⟩
      obtain ⟨b, hb, hselect⟩ := bind_eq_ok_iff.1 hselect
      obtain ⟨others, hothers, heq⟩ := bind_eq_ok_iff.1 hselect
      cases heq
      cases b with
      | false => exact ⟨⟨false, hb, by simp⟩, others, hothers, hall⟩
      | true =>
        rw [if_pos rfl, List.forall_mem_cons] at hall
        exact ⟨⟨true, hb, fun _ => hall.1⟩, others, hothers, hall.2⟩
    · rintro ⟨⟨b, hb, hr⟩, others, hothers, hall⟩
      refine ⟨if b then r :: others else others, ?_, ?_⟩
      · simp only [selectBy, id, hb, hothers]
        rfl
      · cases b with
        | false => exact hall
        | true => exact List.forall_mem_cons.2 ⟨hr rfl, hall⟩

/-- Filtering field by field leaves the records that pass the test of each. -/
theorem narrow_only (h : ∀ r ∈ records, Tested s r) (fs : List Field) :
    narrow (fs.map s.only) records = .ok (records.filter fun r => fs.all (verdict s · r)) := by
  induction fs generalizing records with
  | nil => simp [narrow, pure, Except.pure]
  | cons f fs ih =>
    have hselect : select (s.only f) (.list records) = .ok (records.filter (verdict s f)) :=
      select_eq_filter fun r hr => by rw [selects_only, (h r hr).passes_eq]
    have htested : ∀ r ∈ records.filter (verdict s f), Tested s r :=
      fun r hr => h r (List.mem_of_mem_filter hr)
    have hstep : narrow ((f :: fs).map s.only) records =
        narrow (fs.map s.only) (records.filter (verdict s f)) := by
      rw [narrow, List.map_cons, List.foldlM_cons, hselect]
      rfl
    rw [hstep, ih htested, List.filter_filter]
    simp only [List.all_cons, Bool.and_comm]

end Selection

/-! ## Records as they should be -/

/-- A count is a number or missing. -/
def IsCount (v : Value) : Prop := v = .null ∨ v.number?.isSome = true

/-- The name and the path of a record are texts or missing, and its counts are numbers or missing.
Nothing is said about its kind and its flags. -/
structure Regular (r : Value) : Prop where
  name : field r ["name"] = .null ∨ ∃ s, field r ["name"] = .text s
  path : field r ["path", "file"] = .null ∨ ∃ s, field r ["path", "file"] = .text s
  refs : IsCount (field r ["refs", "references"])
  callers : IsCount (field r ["callers", "caller_count"])
  callees : IsCount (field r ["callees", "callee_count"])

theorem exists_text_orElse {v : Value} (h : v = .null ∨ ∃ s, v = .text s) :
    ∃ s, v.orElse (.text "") = .text s := by
  rcases h with rfl | ⟨s, rfl⟩
  · exact ⟨"", rfl⟩
  · exact ⟨s, orElse_text s⟩

theorem IsCount.orElse {v : Value} (h : IsCount v) :
    (v.orElse (.int 0)).number?.isSome = true := by
  rw [Value.orElse]
  split
  next htruthy =>
    rcases h with rfl | h
    · cases htruthy
    · exact h
  next => rfl

/-- A value that holds an integer that is too long counts as present. -/
theorem truthy_of_holdsLong {v : Value} (h : v.HoldsLong) : v.truthy = true := by
  cases h with
  | @int n h =>
    have hpos : 0 < 10 ^ digitLimit := Nat.pow_pos (by decide)
    have hn : n ≠ 0 := by
      rintro rfl
      exact absurd h (Nat.not_le.2 hpos)
    simpa [Value.truthy] using hn
  | item hmem _ => simpa [Value.truthy] using List.ne_nil_of_mem hmem
  | entry hmem _ => simpa [Value.truthy] using List.ne_nil_of_mem hmem
  | named => rfl

/-- The kind of a record has a text if it holds no integer that is too long. -/
theorem exists_kind_iff {r : Value} :
    (∃ t, Record.kind r = .ok t) ↔ ¬ (field r ["kind", "type"]).HoldsLong := by
  rw [Record.kind, Value.exists_shown_iff, Value.orElse]
  split
  next => rfl
  next hmissing =>
    refine iff_of_true ?_ fun h => hmissing (truthy_of_holdsLong h)
    rintro ⟨⟩

theorem exists_less {v w : Value} (hv : v.number?.isSome = true) (hw : w.number?.isSome = true) :
    ∃ b, v.less w = .ok b := by
  cases v <;> cases w <;> simp_all [Value.number?, Value.less, Value.lessScalar]

namespace Filters

variable {g : Filters} {r : Value} {records : List Value}

theorem exists_passesSearch (h : Regular r) : ∃ b, passesSearch g.spec.search r = .ok b := by
  obtain ⟨name, hname⟩ := exists_text_orElse h.name
  obtain ⟨path, hpath⟩ := exists_text_orElse h.path
  exact ⟨_, passesSearch_text hname hpath⟩

theorem exists_passesFile (h : Regular r) : ∃ b, passesFile g.spec.file r = .ok b := by
  obtain ⟨path, hpath⟩ := exists_text_orElse h.path
  have hglob : ∃ b, passesGlob (.text g.file) (Record.path r) = .ok b := by
    refine ⟨(Glob.ofText g.file).accepts path, ?_⟩
    simp only [passesGlob, Record.path, hpath, orElse_text, Glob.compiled_eq, Except.map]
  rw [passesFile]
  split
  next => exact ⟨_, rfl⟩
  next => exact hglob

theorem exists_passesMin (h : Regular r) : ∃ b, passesMin g.spec.minRefs r = .ok b := by
  rw [passesMin, spec, refsCount, Record.refs]
  cases g.minRefs with
  | none => exact ⟨_, rfl⟩
  | some n => exact exists_map_iff.2 (exists_less h.refs.orElse rfl)

theorem exists_passesMax (h : Regular r) : ∃ b, passesMax g.spec.maxRefs r = .ok b := by
  rw [passesMax, spec, refsCount, Record.refs]
  cases g.maxRefs with
  | none => exact ⟨_, rfl⟩
  | some n => exact exists_map_iff.2 (exists_less rfl h.refs.orElse)

theorem exists_passesPresence (wanted : Option Bool) {count : Value}
    (h : count.number?.isSome = true) :
    ∃ b, passesPresence ((wanted.map .bool).getD .null) count = .ok b := by
  rcases wanted with _ | _ | _
  · exact ⟨_, rfl⟩
  · exact ⟨_, rfl⟩
  · exact exists_less rfl h

/-- The test of the kind has a result if the kind has a text, or if no kind is asked for. -/
theorem exists_passesKind_iff :
    (∃ b, passesKind g.spec.kind r = .ok b) ↔
      g.kind = "all" ∨ ¬ (field r ["kind", "type"]).HoldsLong := by
  rw [← exists_kind_iff]
  by_cases hall : g.kind = "all"
  · simp [passesKind, spec, hall]
  · cases hkind : Record.kind r <;>
      simp [passesKind, spec, hall, hkind, Value.lowered, bind, Except.bind, pure, Except.pure]

/-- The test of every other field has a result. -/
theorem exists_passes (h : Regular r) {f : Field} (hf : f ≠ .kind) :
    ∃ b, passes g.spec r f = .ok b := by
  cases f with
  | search => exact exists_passesSearch h
  | kind => exact absurd rfl hf
  | state => exact ⟨_, rfl⟩
  | file => exact exists_passesFile h
  | minRefs => exact exists_passesMin h
  | maxRefs => exact exists_passesMax h
  | hasCallers => exact exists_passesPresence g.hasCallers h.callers.orElse
  | hasCallees => exact exists_passesPresence g.hasCallees h.callees.orElse
  | entry => exact ⟨_, rfl⟩

theorem tested_iff (h : Regular r) :
    Tested g.spec r ↔ g.kind = "all" ∨ ¬ (field r ["kind", "type"]).HoldsLong := by
  rw [← exists_passesKind_iff]
  refine ⟨fun htested => htested .kind, fun hkind f => ?_⟩
  by_cases hf : f = .kind
  · subst hf
    exact hkind
  · exact exists_passes h hf

end Filters

/-- The fields of a specification are independent on a list of records. -/
structure Independent (s : Spec) (records : List Value) : Prop where
  /-- Each field says yes or no by itself, and a record is selected if all say yes. -/
  verdicts : ∀ r ∈ records, ∃ v : Field → Bool,
    (∀ f, selects (s.only f) r = .ok (v f)) ∧ selects s r = .ok (Field.all.all v)
  /-- Filtering by one field after the other, in any order, leaves the records that are selected.
  Fields with their defaults may be left out, and fields may be repeated. -/
  successive : ∀ fs : List Field, (∀ f, s.get f ≠ f.default → f ∈ fs) → ∃ chosen,
    select s (.list records) = .ok chosen ∧ narrow (fs.map s.only) records = .ok chosen
  /-- What a field has instead of its default never adds a record. -/
  monotone : ∀ f, ∃ fewer more, select s (.list records) = .ok fewer ∧
    select (s.set f f.default) (.list records) = .ok more ∧ fewer.Sublist more

/-- Fields are independent where all tests have results. -/
theorem independent_of_tested {s : Spec} {records : List Value} (h : ∀ r ∈ records, Tested s r) :
    Independent s records := by
  have hselect := select_eq_filter fun r hr => (h r hr).selects_eq
  refine ⟨fun r hr => ⟨(verdict s · r), fun f => ?_, (h r hr).selects_eq⟩, fun fs hfs => ?_,
    fun f => ?_⟩
  · rw [selects_only, (h r hr).passes_eq]
  · have hsame : ∀ r, fs.all (verdict s · r) = Field.all.all (verdict s · r) := by
      intro r
      rw [Bool.eq_iff_iff, List.all_eq_true, List.all_eq_true]
      refine ⟨fun hpassed f _ => ?_, fun hpassed f _ => hpassed f (Field.mem_all f)⟩
      by_cases hdefault : s.get f = f.default
      · exact verdict_of_default hdefault r
      · exact hpassed f (hfs f hdefault)
    refine ⟨_, hselect, ?_⟩
    rw [narrow_only h, funext hsame]
  · refine ⟨_, _, hselect, select_eq_filter fun r hr => ((h r hr).set_default f).selects_eq,
      List.monotone_filter_right _ fun r hpassed => ?_⟩
    rw [List.all_eq_true] at hpassed ⊢
    exact fun g hg => verdict_set_default (hpassed g hg) f

/-- **The fields of filters are independent of each other** on records as they should be, unless a
kind is asked for and some record has a kind that holds an integer of more than `digitLimit`
digits, which has no text. -/
theorem independent_iff {g : Filters} {records : List Value} (h : ∀ r ∈ records, Regular r) :
    Independent g.spec records ↔
      g.kind = "all" ∨ ∀ r ∈ records, ¬ (field r ["kind", "type"]).HoldsLong := by
  have htested : (∀ r ∈ records, Tested g.spec r) ↔
      g.kind = "all" ∨ ∀ r ∈ records, ¬ (field r ["kind", "type"]).HoldsLong := by
    by_cases hall : g.kind = "all"
    · exact iff_of_true (fun r hr => (Filters.tested_iff (h r hr)).2 (.inl hall)) (.inl hall)
    · rw [or_iff_right hall]
      exact forall₂_congr fun r hr => (Filters.tested_iff (h r hr)).trans (or_iff_right hall)
  rw [← htested]
  refine ⟨fun hind r hr f => ?_, independent_of_tested⟩
  obtain ⟨v, hv, -⟩ := hind.verdicts r hr
  exact ⟨v f, by rw [← selects_only, hv f]⟩

/-- Records with other names for their fields, one of them with a truth value as its kind. -/
def renamed : List Value :=
  [.map [("name", .text "trace"), ("file", .text "src/a.py"), ("references", .int 3),
    ("type", .bool true)], .map [("caller_count", .int 0)]]

theorem independent_iff_renamed :
    (∀ r ∈ renamed, Regular r) ∧
      Independent { search := .text "T", kind := .text "TRUE", minRefs := .int 2 } renamed := by
  have hregular : ∀ r ∈ renamed, Regular r := by
    rw [renamed, List.forall_mem_cons, List.forall_mem_singleton]
    exact ⟨⟨.inr ⟨"trace", rfl⟩, .inr ⟨"src/a.py", rfl⟩, .inr rfl, .inl rfl, .inl rfl⟩,
      ⟨.inl rfl, .inl rfl, .inl rfl, .inr rfl, .inl rfl⟩⟩
  have hshort : ∀ r ∈ renamed, ¬ (field r ["kind", "type"]).HoldsLong := by
    rw [renamed, List.forall_mem_cons, List.forall_mem_singleton, ← exists_kind_iff,
      ← exists_kind_iff]
    exact ⟨⟨"True", rfl⟩, ⟨"", rfl⟩⟩
  exact ⟨hregular, (independent_iff (g := ⟨"T", "TRUE", "all", "", some 2, none, none, none, none⟩)
    hregular).2 (.inr hshort)⟩

/-! ## A record that cannot be filtered by its kind -/

/-- A record whose kind is an integer that is too long. -/
def numbered : Value := .map [("name", .text "x"), ("kind", .int ((10 ^ digitLimit : Nat) : Int))]

/-- The record is not selected, because the text to search for is not found, but filtering it by
its kind alone has a fault. -/
theorem not_independent_numbered :
    Regular numbered ∧
      selects { search := .text "y", kind := .text "function" } numbered = .ok false ∧
      ¬ Independent { search := .text "y", kind := .text "function" } [numbered] := by
  refine ⟨⟨.inr ⟨"x", rfl⟩, .inl rfl, .inl rfl, .inl rfl, .inl rfl⟩, rfl, fun hind => ?_⟩
  -- The verdict on the kind would be made from a text of the kind, which there is not.
  obtain ⟨v, hv, -⟩ := hind.verdicts numbered (by simp)
  have hkind := hv .kind
  rw [selects_only] at hkind
  obtain ⟨found, hfound, -⟩ := bind_eq_ok_iff.1 hkind
  have hlong : (field numbered ["kind", "type"]).HoldsLong :=
    .int (Nat.le_of_eq (Int.natAbs_natCast _).symm)
  exact exists_kind_iff.1 ⟨found, hfound⟩ hlong

end SymbolSieve
