import Mathlib.Data.List.Nodup
import SymbolSieve.Proofs.Selection.Independence

/-!
# Dead and used symbols

A symbol is dead if it is flagged, or has no references without being flagged; it is used if it is
neither.  The two states are asked for by tests of their own, of which the second one is not written
as the opposite of the first, and the number of references may be missing.  Still, every symbol is
in exactly one of them.  So a selection that asks for no state is split by the two states, whatever
the other fields ask for.

## What is here

* `Spec.inState`: a specification with another state.
* `selects_inState`: what a state does to a selection that asks for none.
* `Gives`: the records that a specification selects, with their positions.
* `SplitByUse`: the selections for the two states make up that for no state.
* `splitByUse_iff`: they do as soon as the selection for no state has a result, which it has for
  filters and well-typed records (`splitByUse_of_wellTyped`).
-/

set_option autoImplicit false

namespace SymbolSieve

open Record Selection

/-- A specification with another state. -/
def Spec.inState (s : Spec) (state : String) : Spec := s.set .state (.text state)

namespace Selection

variable {s : Spec} {r : Value} {records : List Value}

/-! ## Single records -/

/-- A record is used exactly if it is not dead. -/
theorem passesState_used (r : Value) :
    passesState (.text "used") r = !passesState (.text "dead") r := by
  simp [passesState]

/-- Tests that are the same for two specifications have the same result. -/
theorem passesAll_congr {t : Spec} {fs : List Field} (h : ∀ f ∈ fs, passes s r f = passes t r f) :
    passesAll s r fs = passesAll t r fs := by
  induction fs with
  | nil => rfl
  | cons f fs ih =>
    obtain ⟨hf, hfs⟩ := List.forall_mem_cons.1 h
    rw [passesAll, passesAll, hf, ih hfs]

/-- When one test is made to fail, all tests together fail, if they had a result before. -/
theorem passesAll_of_fails {t : Spec} {f : Field} {fs : List Field} {b : Bool} (hf : f ∈ fs)
    (hothers : ∀ g, g ≠ f → passes t r g = passes s r g) (hfails : passes t r f = .ok false)
    (h : passesAll s r fs = .ok b) : passesAll t r fs = .ok false := by
  induction fs with
  | nil => cases hf
  | cons g fs ih =>
    obtain ⟨c, hc, h⟩ := bind_eq_ok_iff.1 h
    rw [passesAll]
    by_cases hg : g = f
    · rw [hg, hfails]
      rfl
    · rw [hothers g hg, hc]
      cases c with
      | false => rfl
      | true => exact ih ((List.mem_cons.1 hf).resolve_left (Ne.symm hg)) h

theorem passes_inState (s : Spec) (state : String) (r : Value) :
    passes (s.inState state) r .state = .ok (passesState (.text state) r) :=
  congrArg (fun v => Except.ok (passesState v r)) (Spec.get_set_self s .state (.text state))

theorem passes_inState_of_ne (s : Spec) (state state' : String) {f : Field} (hf : f ≠ .state)
    (r : Value) : passes (s.inState state) r f = passes (s.inState state') r f :=
  passes_congr (by rw [Spec.inState, Spec.inState, Spec.get_set_of_ne _ _ hf,
    Spec.get_set_of_ne _ _ hf]) r

theorem passes_inState_all (s : Spec) (r : Value) :
    passes (s.inState "all") r .state = .ok true := by
  simp [passes_inState, passesState]

/-- **What a state does to a selection that asks for none**: a record that is selected has to be in
the state as well. -/
theorem selects_inState {b : Bool} (h : selects (s.inState "all") r = .ok b) (state : String) :
    selects (s.inState state) r = .ok (b && passesState (.text state) r) := by
  cases hstate : passesState (.text state) r with
  | true =>
    have hsame : ∀ f ∈ Field.all, passes (s.inState state) r f = passes (s.inState "all") r f := by
      intro f _
      by_cases hf : f = .state
      · rw [hf, passes_inState_all, passes_inState, hstate]
      · exact passes_inState_of_ne s state "all" hf r
    rw [Bool.and_true, selects, passesAll_congr hsame]
    exact h
  | false =>
    have hfails : passes (s.inState state) r .state = .ok false := by rw [passes_inState, hstate]
    rw [Bool.and_false]
    exact passesAll_of_fails (Field.mem_all .state)
      (fun f hf => passes_inState_of_ne s state "all" hf r) hfails h

/-! ## The two parts of a list -/

section parts

variable {α β : Type} {le : α → α → Bool} {a : α} {l l' : List α}

theorem cons_merge_of_forall (h : ∀ b ∈ l', le a b = true) :
    List.merge (a :: l) l' le = a :: List.merge l l' le := by
  cases l' with
  | nil => rw [List.merge_right, List.merge_right]
  | cons b l' => exact List.cons_merge_cons_pos le l l' (h b List.mem_cons_self)

theorem merge_cons_of_forall (h : ∀ b ∈ l, le b a = false) :
    List.merge l (a :: l') le = a :: List.merge l l' le := by
  cases l with
  | nil => rw [List.nil_merge, List.nil_merge]
  | cons b l => exact List.cons_merge_cons_neg le l l' (by simp [h b List.mem_cons_self])

/-- The members of a list that have a property and those that have not are merged to the list, if
it is in strict order. -/
theorem merge_filter (h : l.Pairwise fun a b => le a b = true ∧ le b a = false) (q : α → Bool) :
    List.merge (l.filter q) (l.filter fun a => !q a) le = l := by
  induction l with
  | nil => exact List.nil_merge []
  | cons a l ih =>
    obtain ⟨ha, hl⟩ := List.pairwise_cons.1 h
    cases hq : q a with
    | true =>
      have hfirst : ∀ b ∈ l.filter fun a => !q a, le a b = true :=
        fun b hb => (ha b (List.mem_of_mem_filter hb)).1
      rw [List.filter_cons_of_pos hq, List.filter_cons_of_neg (by simp [hq]),
        cons_merge_of_forall hfirst, ih hl]
    | false =>
      have hfirst : ∀ b ∈ l.filter q, le b a = false :=
        fun b hb => (ha b (List.mem_of_mem_filter hb)).2
      rw [List.filter_cons_of_neg (by simp [hq]), List.filter_cons_of_pos (by simp [hq]),
        merge_cons_of_forall hfirst, ih hl]

/-- If a function has different values for all members, it has different values for those that have
a property and those that have not. -/
theorem disjoint_map_filter {f : α → β} (h : (l.map f).Nodup) (q : α → Bool) :
    ((l.filter q).map f).Disjoint ((l.filter fun a => !q a).map f) := by
  have hparts := ((List.filter_append_perm q l).map f).nodup_iff.2 h
  rw [List.map_append] at hparts
  exact List.disjoint_of_nodup_append hparts

end parts

/-! ## Lists of records -/

/-- Some records of a list, with their positions in it, are those that are selected. -/
structure Gives (s : Spec) (records : List Value) (chosen : List (Value × Nat)) : Prop where
  sublist : chosen.Sublist records.zipIdx
  select : select s (.list records) = .ok (chosen.map Prod.fst)
  positions : positions s (.list records) = .ok (chosen.map Prod.snd)

/-- Where every record has a verdict, those with a good one are given. -/
theorem gives_filter {p : Value → Bool} (h : ∀ r ∈ records, selects s r = .ok (p r)) :
    Gives s records (records.zipIdx.filter fun x => p x.1) where
  sublist := List.filter_sublist
  select := by
    rw [select_eq_filter h]
    conv_lhs => rw [← List.zipIdx_map_fst 0 records, List.filter_map]
    rfl
  positions := by
    have hnumbered : ∀ x ∈ records.zipIdx, selects s x.1 = .ok (p x.1) := fun x hx =>
      h x.1 (List.fst_mem_of_mem_zipIdx hx)
    have hchosen := selectBy_eq_filter hnumbered
    simp only [Selection.positions, members, hchosen, bind, Except.bind, pure, Except.pure]

/-- The positions are in strict order. -/
theorem Gives.pairwise {chosen : List (Value × Nat)} (h : Gives s records chosen) :
    chosen.Pairwise fun x y => x.2 < y.2 := by
  have hpositions : records.zipIdx.Pairwise fun x y => x.2 < y.2 := by
    rw [← List.pairwise_map (f := Prod.snd), List.zipIdx_map_snd]
    exact List.pairwise_lt_range'
  exact hpositions.sublist h.sublist

/-- The selections for the two states make up that for no state. -/
structure SplitByUse (s : Spec) (records : List Value) : Prop where
  /-- A record that is selected if no state is asked for is selected for exactly one of the two
  states, and every other record for none of them. -/
  each : ∀ r ∈ records, ∃ all dead used : Bool, selects (s.inState "all") r = .ok all ∧
    selects (s.inState "dead") r = .ok dead ∧ selects (s.inState "used") r = .ok used ∧
    (dead || used) = all ∧ (dead && used) = false
  /-- The two results have no position in common, and they are merged, in the order of the
  positions, to the result for no state. -/
  merge : ∃ all dead used : List (Value × Nat), Gives (s.inState "all") records all ∧
    Gives (s.inState "dead") records dead ∧ Gives (s.inState "used") records used ∧
    (dead.map Prod.snd).Disjoint (used.map Prod.snd) ∧
    List.merge dead used (fun x y => decide (x.2 ≤ y.2)) = all

/-- There is a result for a list if there is a verdict on every record. -/
theorem exists_select_list_iff :
    (∃ chosen, select s (.list records) = .ok chosen) ↔
      ∀ r ∈ records, ∃ b, selects s r = .ok b := by
  rw [select_list]
  simpa using @exists_selectBy_iff (fun _ => True) s records

/-- The selections for the two states make up that for no state if each record has a verdict. -/
theorem splitByUse_of_verdicts {p : Value → Bool}
    (h : ∀ r ∈ records, selects (s.inState "all") r = .ok (p r)) : SplitByUse s records := by
  let q : Value → Bool := passesState (.text "dead")
  -- The test of the state is put first, so that both results are parts of the one for no state.
  have hdead : ∀ r ∈ records, selects (s.inState "dead") r = .ok (q r && p r) :=
    fun r hr => by rw [selects_inState (h r hr), Bool.and_comm]
  have hused : ∀ r ∈ records, selects (s.inState "used") r = .ok (!q r && p r) :=
    fun r hr => by rw [selects_inState (h r hr), passesState_used, Bool.and_comm]
  refine ⟨fun r hr => ?_, ?_⟩
  · refine ⟨_, _, _, h r hr, hdead r hr, hused r hr, ?_⟩
    cases p r <;> cases q r <;> decide
  · have hall := gives_filter h
    have hstrict := hall.pairwise
    refine ⟨_, _, _, hall, gives_filter hdead, gives_filter hused, ?_, ?_⟩
    · rw [← List.filter_filter, ← List.filter_filter]
      exact disjoint_map_filter ((List.pairwise_map.2 hstrict).imp Nat.ne_of_lt) _
    · rw [← List.filter_filter, ← List.filter_filter]
      refine merge_filter (hstrict.imp fun hlt => ?_) _
      simpa using ⟨hlt.le, hlt⟩

/-- **The selections for the two states make up that for no state** as soon as it has a result. -/
theorem splitByUse_iff :
    SplitByUse s records ↔ ∃ chosen, select (s.inState "all") (.list records) = .ok chosen := by
  refine ⟨fun h => ?_, fun h => ?_⟩
  · obtain ⟨all, -, -, hall, -⟩ := h.merge
    exact ⟨_, hall.select⟩
  · rw [exists_select_list_iff] at h
    choose! p hp using h
    exact splitByUse_of_verdicts hp

/-- **Every selection from well-typed records is split by the use of the symbols.** -/
theorem splitByUse_of_wellTyped {g : Filters} (h : ∀ r ∈ records, WellTyped r) :
    SplitByUse g.spec records := by
  refine splitByUse_iff.2 (exists_select_list_iff.2 fun r hr => ?_)
  obtain ⟨t, ht⟩ := exists_hasTraits (h r hr)
  exact ⟨_, Filters.selects_eq (g := { g with state := "all" }) ht⟩

/-- Symbols with a flag, with no references, and with a number of references that is not reported or
is under another name. -/
def marked : List Value :=
  [.map [("name", .text "run"), ("refs", .int 4), ("dead", .bool true)],
    .map [("name", .text "parse"), ("refs", .int 0), ("dead", .bool false)],
    .map [("name", .text "render")],
    .object [("name", .text "relay"), ("references", .int 2)]]

theorem splitByUse_of_wellTyped_marked :
    (∀ r ∈ marked, WellTyped r) ∧ SplitByUse
      (Filters.spec ⟨"r", "all", "cycle", "", none, some 5, none, none, none⟩) marked := by
  have htyped : ∀ r ∈ marked, WellTyped r := by
    refine List.forall_iff_forall_mem.1 ⟨?_, ?_, ?_, ?_⟩ <;> constructor <;>
      simp [Fits, Value.fieldAt?, Option.filter_eq_some_iff, Value.part?, Assoc.get?, Value.isNull]
  exact ⟨htyped, splitByUse_of_wellTyped htyped⟩

end Selection

end SymbolSieve
