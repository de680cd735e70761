import Mathlib.Data.List.Infix
import Mathlib.Tactic.SplitIfs
import SymbolSieve.Proofs.Glob.Expression
import SymbolSieve.Proofs.Selection.Traits

/-!
# Filters of their own kinds

The fields of a specification are dynamic values.  A request gives each of them a value of its own
kind, and then no record with plain fields makes selection fail: whether it is selected is a truth
value that the plain values of both determine.

## What is here

* `Filters`: the values of all filters, each of its own kind, and the specification with them.
* `Filters.accepts`: whether filters accept the traits of a record, made of one test for each part
  of the traits that the filters look at.
* `selects_eq`: a record is selected if its traits are accepted.
* `SameSelection`: specifications that select the same from every list of well-typed records;
  `sameSelection_iff_accepts` says this of traits.
-/

set_option autoImplicit false

namespace SymbolSieve

open Text Selection Record

/-- The values of all filters, each of its own kind. -/
structure Filters where
  search : String
  kind : String
  state : String
  file : String
  minRefs : Option Int
  maxRefs : Option Int
  hasCallers : Option Bool
  hasCallees : Option Bool
  entry : Option Bool

/-- What a state says of the use of a symbol, entry points apart. -/
inductive Mark where
  | dead | used | cycle
  deriving DecidableEq

/-- Whether the use of a symbol is as a mark says. -/
def Standing.has (s : Standing) : Mark → Bool
  | .dead => s.dead || s.refs == some 0
  | .used => !s.dead && s.refs != some 0
  | .cycle => s.cycle

/-- Tests that all have results are made to the end, or up to the first that fails. -/
theorem Selection.passesAll_eq_all {s : Spec} {r : Value} {p : Field → Bool}
    (h : ∀ f, passes s r f = .ok (p f)) (fs : List Field) :
    passesAll s r fs = .ok (fs.all p) := by
  induction fs with
  | nil => rfl
  | cons f fs ih =>
    rw [passesAll, h f, List.all_cons]
    cases p f with
    | true => exact ih
    | false => rfl

/-- A text occurs in those that it is a part of. -/
theorem Selection.occursIn_iff {needle s : List Char} :
    occursIn needle s = true ↔ needle <:+: s := by
  induction s with
  | nil => simp [occursIn]
  | cons c s ih => simp [occursIn, ih, List.infix_cons_iff]

/-- The text to search for is looked for in lower case; an empty one is found everywhere. -/
theorem Selection.passesSearch_text {s name path : String} {r : Value}
    (hname : Record.name r = .text name) (hpath : Record.path r = .text path) :
    passesSearch (.text s) r = .ok (occursIn (lower s).toList (lower name).toList ||
      occursIn (lower s).toList (lower path).toList) := by
  by_cases hempty : s = ""
  · subst hempty
    have hfound : occursIn (lower "").toList (lower name).toList = true :=
      occursIn_iff.2 List.nil_infix
    simp [passesSearch, Value.truthy, hfound]
  · have htruthy : (Value.text s).truthy = true := by simp [Value.truthy, hempty]
    simp only [passesSearch, htruthy, hname, hpath, Value.lowered, bind, Except.bind,
      Bool.not_true, Bool.false_eq_true, if_false]
    split <;> simp_all [pure, Except.pure]

namespace Filters

/-- The specification with these values. -/
def spec (g : Filters) : Spec where
  search := .text g.search
  kind := .text g.kind
  state := .text g.state
  file := .text g.file
  minRefs := (g.minRefs.map .int).getD .null
  maxRefs := (g.maxRefs.map .int).getD .null
  hasCallers := (g.hasCallers.map .bool).getD .null
  hasCallees := (g.hasCallees.map .bool).getD .null
  entry := (g.entry.map .bool).getD .null

/-! ## What filters ask for -/

/-- The text to search for, in lower case. -/
def needle (g : Filters) : List Char := (lower g.search).toList

/-- Whether the text to search for occurs in a text. -/
def finds (g : Filters) (s : String) : Bool := occursIn g.needle (lower s).toList

/-- Whether a path is accepted. -/
def allowsPath (g : Filters) (path : String) : Bool :=
  g.file == "" || (Glob.ofText g.file).accepts path

/-- Whether a name with a path is accepted. -/
def allowsPlace (g : Filters) (name path : String) : Bool :=
  (g.finds name || g.finds path) && g.allowsPath path

/-- The kind that is asked for, in lower case. -/
def kindAsked (g : Filters) : Option String := if g.kind = "all" then none else some (lower g.kind)

/-- Whether a kind is accepted. -/
def allowsKind (g : Filters) (kind : String) : Bool := g.kindAsked.all (lower kind == ·)

/-- What the state asks for, entry points apart.  Other states ask for nothing. -/
def mark (g : Filters) : Option Mark :=
  if g.state = "dead" then some .dead
  else if g.state = "used" then some .used
  else if g.state = "cycle" then some .cycle
  else none

/-- Whether only entry points are asked for, by the state or by the field for it. -/
def asksEntry (g : Filters) : Bool := g.state == "entry" || g.entry == some true

/-- Whether a number of references is within the bounds. -/
def allowsRefs (g : Filters) (n : Int) : Bool :=
  g.minRefs.all (decide <| · ≤ n) && g.maxRefs.all (decide <| n ≤ ·)

/-- Whether the use of a symbol is accepted. -/
def allowsStanding (g : Filters) (s : Standing) : Bool :=
  g.mark.all s.has && (!g.asksEntry || s.entry) && g.allowsRefs s.count

/-- Whether a count is positive where presence is asked for, and zero where absence is. -/
def allowsCount (wanted : Option Bool) (n : Int) : Bool :=
  match wanted with
  | some true => decide (0 < n)
  | some false => n == 0
  | none => true

/-- Whether the traits of a record are accepted. -/
def accepts (g : Filters) (t : Traits) : Bool :=
  g.allowsPlace t.name t.path && g.allowsKind t.kind && g.allowsStanding t.standing &&
    allowsCount g.hasCallers t.callers && allowsCount g.hasCallees t.callees

/-! ## The tests of a record -/

variable {g : Filters} {r : Value} {t : Traits}

theorem passesSearch_eq (h : HasTraits r t) :
    passesSearch g.spec.search r = .ok (g.finds t.name || g.finds t.path) :=
  passesSearch_text h.name h.path

theorem passesKind_eq (h : HasTraits r t) :
    passesKind g.spec.kind r = .ok (g.allowsKind t.kind) := by
  by_cases hall : g.kind = "all"
  · simp [passesKind, spec, allowsKind, kindAsked, hall]
  · simp [passesKind, spec, allowsKind, kindAsked, hall, h.kind, Value.lowered, bind, Except.bind,
      pure, Except.pure]

theorem equal_zero_eq (refs : Option Int) :
    ((refs.map Value.int).getD .null).equal (.int 0) = (refs == some 0) := by
  cases refs with
  | none => rfl
  | some n => simp

theorem passesState_eq (h : HasTraits r t) :
    passesState g.spec.state r =
      (g.mark.all t.standing.has && (!(g.state == "entry") || t.standing.entry)) := by
  simp only [passesState, spec, Value.equal_text, beq_iff_eq, mark, h.dead, h.refs, h.cycle,
    h.entry, equal_zero_eq]
  split_ifs <;> simp_all [Standing.has, bne]

theorem passesFile_eq (h : HasTraits r t) :
    passesFile g.spec.file r = .ok (g.allowsPath t.path) := by
  by_cases hempty : g.file = ""
  · simp [passesFile, spec, allowsPath, hempty, Value.truthy]
  · simp [passesFile, passesGlob, spec, allowsPath, hempty, Value.truthy, h.path, orElse_text,
      Glob.compiled_eq, Except.map]

theorem refsCount_eq (h : HasTraits r t) : refsCount r = .int t.standing.count := by
  rw [refsCount, h.refs, Standing.count]
  cases t.standing.refs with
  | none => rfl
  | some n => exact orElse_int n

theorem passesMin_eq (h : HasTraits r t) :
    passesMin g.spec.minRefs r = .ok (g.minRefs.all (decide <| · ≤ t.standing.count)) := by
  rw [passesMin, refsCount_eq h, spec]
  cases g.minRefs with
  | none => rfl
  | some n =>
    have hnot : (!decide (t.standing.count < n)) = decide (n ≤ t.standing.count) := by
      rw [← decide_not, decide_eq_decide, Int.not_lt]
    simp only [Option.map_some, Option.getD_some, Option.all_some, Value.isNull, Value.less_int,
      Except.map, hnot, Bool.false_eq_true, if_false]

theorem passesMax_eq (h : HasTraits r t) :
    passesMax g.spec.maxRefs r = .ok (g.maxRefs.all (decide <| t.standing.count ≤ ·)) := by
  rw [passesMax, refsCount_eq h, spec]
  cases g.maxRefs with
  | none => rfl
  | some n =>
    have hnot : (!decide (n < t.standing.count)) = decide (t.standing.count ≤ n) := by
      rw [← decide_not, decide_eq_decide, Int.not_lt]
    simp only [Option.map_some, Option.getD_some, Option.all_some, Value.isNull, Value.less_int,
      Except.map, hnot, Bool.false_eq_true, if_false]

theorem passesPresence_eq (wanted : Option Bool) (n : Int) :
    passesPresence ((wanted.map .bool).getD .null) (.int n) = .ok (allowsCount wanted n) := by
  rcases wanted with _ | _ | _ <;> simp [passesPresence, allowsCount]

theorem passesEntry_eq (h : HasTraits r t) :
    passesEntry g.spec.entry r = (!(g.entry == some true) || t.standing.entry) := by
  rw [spec]
  rcases g.entry with _ | _ | _ <;> simp [passesEntry, h.entry]

/-- What the test of one field says of the traits of a record. -/
def passed (g : Filters) (t : Traits) : Field → Bool
  | .search => g.finds t.name || g.finds t.path
  | .kind => g.allowsKind t.kind
  | .state => g.mark.all t.standing.has && (!(g.state == "entry") || t.standing.entry)
  | .file => g.allowsPath t.path
  | .minRefs => g.minRefs.all (decide <| · ≤ t.standing.count)
  | .maxRefs => g.maxRefs.all (decide <| t.standing.count ≤ ·)
  | .hasCallers => allowsCount g.hasCallers t.callers
  | .hasCallees => allowsCount g.hasCallees t.callees
  | .entry => !(g.entry == some true) || t.standing.entry

theorem passes_eq (h : HasTraits r t) (f : Field) : passes g.spec r f = .ok (g.passed t f) := by
  cases f with
  | search => exact passesSearch_eq h
  | kind => exact passesKind_eq h
  | state => exact congrArg Except.ok (passesState_eq h)
  | file => exact passesFile_eq h
  | minRefs => exact passesMin_eq h
  | maxRefs => exact passesMax_eq h
  | hasCallers => rw [passes, h.callers]; exact passesPresence_eq g.hasCallers t.callers
  | hasCallees => rw [passes, h.callees]; exact passesPresence_eq g.hasCallees t.callees
  | entry => exact congrArg Except.ok (passesEntry_eq h)

/-- **A record is selected if its traits are accepted.** -/
theorem selects_eq (h : HasTraits r t) : selects g.spec r = .ok (g.accepts t) := by
  rw [selects, passesAll_eq_all (passes_eq h)]
  have hentry : (!g.asksEntry || t.standing.entry) =
      ((!(g.state == "entry") || t.standing.entry) &&
        (!(g.entry == some true) || t.standing.entry)) := by
    rw [asksEntry, Bool.not_or, Bool.or_and_distrib_right]
  simp only [Field.all, passed, accepts, allowsPlace, allowsStanding, allowsRefs, hentry,
    List.all_cons, List.all_nil, Bool.and_true]
  ac_rfl

end Filters

/-! ## Lists of records -/

/-- Two specifications select the same records, and fail on no record, as long as the records are
well typed. -/
def SameSelection (s s' : Spec) : Prop :=
  ∀ records : List Value, (∀ r ∈ records, WellTyped r) →
    ∃ chosen, select s (.list records) = .ok chosen ∧ select s' (.list records) = .ok chosen

theorem selectBy_of_selects {s s' : Spec} {records : List Value}
    (h : ∀ r ∈ records, ∃ b, selects s r = .ok b ∧ selects s' r = .ok b) :
    ∃ chosen, selectBy id s records = .ok chosen ∧ selectBy id s' records = .ok chosen := by
  induction records with
  | nil => exact ⟨[], rfl, rfl⟩
  | cons r records ih =>
    obtain ⟨b, hb, hb'⟩ := h r (by simp)
    obtain ⟨chosen, hchosen, hchosen'⟩ := ih fun r hr => h r (by simp [hr])
    refine ⟨if b then r :: chosen else chosen, ?_, ?_⟩
    · simp [selectBy, hb, hchosen, bind, Except.bind, pure, Except.pure]
    · simp [selectBy, hb', hchosen', bind, Except.bind, pure, Except.pure]

/-- A list of one record shows whether that record is selected. -/
theorem select_singleton {s : Spec} {r : Value} {b : Bool} (h : selects s r = .ok b) :
    select s (.list [r]) = .ok (if b then [r] else []) := by
  simp [select, members, selectBy, h, bind, Except.bind, pure, Except.pure]

/-- **Filters select the same records exactly if they accept the same traits.** -/
theorem sameSelection_iff_accepts {g g' : Filters} :
    SameSelection g.spec g'.spec ↔ ∀ t, g.accepts t = g'.accepts t := by
  constructor
  · intro h t
    obtain ⟨chosen, hchosen, hchosen'⟩ := h [t.record] (by simpa using t.wellTyped_record)
    rw [select_singleton (Filters.selects_eq t.hasTraits_record)] at hchosen hchosen'
    have hsame := hchosen.trans hchosen'.symm
    cases hg : g.accepts t <;> cases hg' : g'.accepts t <;> simp [hg, hg'] at hsame ⊢
  · intro h records hrecords
    refine selectBy_of_selects fun r hr => ?_
    obtain ⟨t, ht⟩ := exists_hasTraits (hrecords r hr)
    exact ⟨g.accepts t, Filters.selects_eq ht, by rw [h t]; exact Filters.selects_eq ht⟩

end SymbolSieve
