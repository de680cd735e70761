import SymbolSieve.Proofs.Sorting.Keys
import SymbolSieve.Proofs.Sorting.Stable

/-!
# Records in order

Sorted records are those that were given, in the order of their keys, and records with equal keys
are in the order in which they were given.  Descending order is the same list read backwards, so
there the records with equal keys are in the reverse of the order in which they were given.

One would expect this of every column in which all records have keys.  But a text such as `nan` in a
column of numbers is read as not-a-number, unlike any other text that is no number, which counts as
zero.  Not-a-number is neither before nor after any other key, so sorting may leave the records
around it where they are.

## What is here

* `InOrder`: a list holds records in the order of their keys.
* `mergeSort_inLine_eq`: sorting goes by the ranks of the records, if all have one.
* `sort_inOrder_iff`: sorting puts records in order exactly if none of them is keyed by
  not-a-number, or there is at most one record.
-/

set_option autoImplicit false

namespace SymbolSieve.Sorting

variable {column : Value} {records : List Value}

/-- A list holds some records in the order of their keys in a column. -/
structure InOrder (column : Value) (records sorted : List Value) : Prop where
  /-- No key is less than one that stands before it. -/
  ascending : sorted.Pairwise fun r r' => ∃ a b, rankOf? column r = some a ∧
    rankOf? column r' = some b ∧ a ≤ b
  /-- Records with equal keys keep their order. -/
  stable : ∀ a, sorted.filter (rankOf? column · = some a) =
    records.filter (rankOf? column · = some a)

/-- The rank of a record that has one. -/
def rankOf (column record : Value) : Rank := (rankOf? column record).getD (Sum.inlₗ ⊥)

theorem rankOf?_eq_rankOf {r : Value} (h : ∃ a, rankOf? column r = some a) :
    rankOf? column r = some (rankOf column r) := by
  obtain ⟨a, ha⟩ := h
  rw [rankOf, ha, Option.getD_some]

/-- Sorting goes by the ranks of the records, if all of them have one. -/
theorem mergeSort_inLine_eq (h : ∀ r ∈ records, ∃ a, rankOf? column r = some a) :
    records.mergeSort (inLine column) = arrange (rankOf column) records := by
  have hle : ∀ r ∈ records, ∀ r' ∈ records,
      inLine column r r' = decide (rankOf column r ≤ rankOf column r') := by
    intro r hr r' hr'
    rw [Bool.eq_iff_iff, decide_eq_true_eq]
    exact inLine_iff (rankOf?_eq_rankOf (h r hr)) (rankOf?_eq_rankOf (h r' hr'))
  calc records.mergeSort (inLine column)
      = (records.mergeSort (inLine column)).map id := (List.map_id _).symm
    _ = arrange (rankOf column) (records.map id) := List.map_mergeSort hle
    _ = arrange (rankOf column) records := by rw [List.map_id]

/-- **Records that have ranks are put in order.** -/
theorem inOrder_of_ranked (h : ∀ r ∈ records, ∃ a, rankOf? column r = some a) :
    InOrder column records (records.mergeSort (inLine column)) := by
  rw [mergeSort_inLine_eq h]
  have hmem : ∀ r ∈ arrange (rankOf column) records, ∃ a, rankOf? column r = some a :=
    fun r hr => h r ((arrange_perm (rankOf column) records).mem_iff.1 hr)
  constructor
  · refine (pairwise_arrange (rankOf column) records).imp_of_mem fun hr hr' hle => ?_
    exact ⟨_, _, rankOf?_eq_rankOf (hmem _ hr), rankOf?_eq_rankOf (hmem _ hr'), hle⟩
  · intro a
    have hclass : ∀ l : List Value, (∀ r ∈ l, ∃ a, rankOf? column r = some a) →
        l.filter (rankOf? column · = some a) = l.filter (rankOf column · = a) := by
      intro l hl
      refine List.filter_congr fun r hr => ?_
      rw [rankOf?_eq_rankOf (hl r hr), decide_eq_decide, Option.some.injEq]
    rw [hclass _ hmem, hclass _ h, filter_arrange_eq]

/-- In a list of several records that is in order, every record has a rank. -/
theorem InOrder.ranked {sorted : List Value} (h : InOrder column records sorted)
    (hlength : 2 ≤ sorted.length) {r : Value} (hr : r ∈ sorted) :
    ∃ a, rankOf? column r = some a := by
  obtain ⟨before, after, rfl⟩ := List.append_of_mem hr
  obtain ⟨-, hrest, hbefore⟩ := List.pairwise_append.1 h.ascending
  cases before with
  | cons r' before =>
    obtain ⟨-, a, -, ha, -⟩ := hbefore r' List.mem_cons_self r List.mem_cons_self
    exact ⟨a, ha⟩
  | nil =>
    cases after with
    | nil => simp at hlength
    | cons r' after =>
      obtain ⟨a, -, ha, -⟩ := (List.pairwise_cons.1 hrest).1 r' List.mem_cons_self
      exact ⟨a, ha⟩

theorem inOrder_of_length_le_one (h : records.length ≤ 1) : InOrder column records records := by
  refine ⟨?_, fun _ => rfl⟩
  match records with
  | [] => exact List.Pairwise.nil
  | [r] => exact List.pairwise_singleton _ r

/-- **Sorting puts records in the order of their keys** exactly if no key is not-a-number or there is
at most one record; descending order is always the reverse of ascending order. -/
theorem sort_inOrder_iff (h : ∀ r ∈ records, ∃ k, key column r = .ok k) :
    ∃ sorted : List Value, sorted.Perm records ∧
      (∀ direction, direction ≠ .text "desc" →
        sort column direction (.list records) = .ok sorted) ∧
      sort column (.text "desc") (.list records) = .ok sorted.reverse ∧
      (InOrder column records sorted ↔
        records.length ≤ 1 ∨ ∀ r ∈ records, key column r ≠ .ok (.number .nan)) := by
  have hperm := List.mergeSort_perm records (inLine column)
  refine ⟨records.mergeSort (inLine column), hperm, fun direction hdirection => ?_,
    sort_eq h (.text "desc"), ?_⟩
  · rw [sort_eq h, inDirection_of_ne hdirection]
  have hranked : (∀ r ∈ records, key column r ≠ .ok (.number .nan)) ↔
      ∀ r ∈ records, ∃ a, rankOf? column r = some a :=
    forall₂_congr fun r hr => (exists_rankOf?_iff (h r hr)).symm
  rw [hranked]
  constructor
  · -- No list of several records is in order if one of them has no rank, so this does not depend on
    -- what sorting makes of not-a-number.
    intro hsorted
    rw [or_iff_not_imp_left, not_le]
    intro hlength r hr
    exact hsorted.ranked (by rwa [hperm.length_eq]) (hperm.mem_iff.2 hr)
  · rintro (hlength | hall)
    · have hself : records.mergeSort (inLine column) = records := by
        match records with
        | [] => rw [List.mergeSort_nil]
        | [r] => rw [List.mergeSort_singleton]
      rw [hself]
      exact inOrder_of_length_le_one hlength
    · exact inOrder_of_ranked hall

/-- A record with a name, a kind and references. -/
def symbol (name kind : String) (refs : Value) : Value :=
  .map [("name", .text name), ("kind", .text kind), ("refs", refs)]

/-- Records of which some have equal keys: two are keyed by three, and two by zero. -/
def tied : List Value :=
  [symbol "run" "function" (.int 3), symbol "Config" "class" (.text "many"),
    symbol "parse" "Function" (.text " 3.0 "), symbol "main" "function" .null]

theorem exists_key_tied : ∀ r ∈ tied, ∃ k, key (.text "refs") r = .ok k ∧ k ≠ .number .nan :=
  List.forall_iff_forall_mem.1
    ⟨⟨_, rfl, by decide⟩, ⟨_, rfl, by decide⟩, ⟨_, rfl, by decide⟩, ⟨_, rfl, by decide⟩⟩

theorem sort_inOrder_iff_tied :
    (∀ r ∈ tied, ∃ k, key (.text "refs") r = .ok k) ∧
      (∀ r ∈ tied, key (.text "refs") r ≠ .ok (.number .nan)) ∧
      ∃ sorted : List Value, sorted.Perm tied ∧
        sort (.text "refs") (.text "asc") (.list tied) = .ok sorted ∧
        sort (.text "refs") (.text "desc") (.list tied) = .ok sorted.reverse ∧
        InOrder (.text "refs") tied sorted := by
  have hkeys : ∀ r ∈ tied, ∃ k, key (.text "refs") r = .ok k := by
    intro r hr
    obtain ⟨k, hk, -⟩ := exists_key_tied r hr
    exact ⟨k, hk⟩
  have hnumbers : ∀ r ∈ tied, key (.text "refs") r ≠ .ok (.number .nan) := by
    intro r hr hnan
    obtain ⟨k, hk, hne⟩ := exists_key_tied r hr
    exact hne (Except.ok.inj (hk.symm.trans hnan))
  obtain ⟨sorted, hperm, hascending, hdescending, horder⟩ := sort_inOrder_iff hkeys
  exact ⟨hkeys, hnumbers, sorted, hperm, hascending _ (by simp), hdescending,
    horder.2 (.inr hnumbers)⟩

/-! ## Records that are not put in order -/

/-- Records of which one is keyed by not-a-number. -/
def unnumbered : List Value :=
  [symbol "run" "function" (.int 5), symbol "parse" "function" (.int 6),
    symbol "Config" "struct" (.text "nan"), symbol "main" "function" (.int 1)]

theorem exists_key_unnumbered : ∀ r ∈ unnumbered, ∃ k, key (.text "refs") r = .ok k :=
  List.forall_iff_forall_mem.1 ⟨⟨_, rfl⟩, ⟨_, rfl⟩, ⟨_, rfl⟩, ⟨_, rfl⟩⟩

/-- Not-a-number keeps the last record from its place. -/
theorem sort_unnumbered :
    sort (.text "refs") (.text "asc") (.list unnumbered) = .ok unnumbered := by
  have hfirst : inLine (.text "refs") (symbol "run" "function" (.int 5))
      (symbol "parse" "function" (.int 6)) = true := by decide
  have hlast : inLine (.text "refs") (symbol "Config" "struct" (.text "nan"))
      (symbol "main" "function" (.int 1)) = true := by decide
  have hrun : inLine (.text "refs") (symbol "run" "function" (.int 5))
      (symbol "Config" "struct" (.text "nan")) = true := by decide
  have hparse : inLine (.text "refs") (symbol "parse" "function" (.int 6))
      (symbol "Config" "struct" (.text "nan")) = true := by decide
  have hself : unnumbered.mergeSort (inLine (.text "refs")) = unnumbered := by
    simp [unnumbered, List.mergeSort, List.MergeSort.Internal.splitInTwo, hfirst, hlast, hrun,
      hparse]
  rw [sort_eq exists_key_unnumbered, hself, inDirection_of_ne (by simp)]

/-- Records that sorting leaves out of order: a key of five stands before a key of one. -/
theorem not_inOrder_unnumbered :
    (∀ r ∈ unnumbered, ∃ k, key (.text "refs") r = .ok k) ∧
      sort (.text "refs") (.text "asc") (.list unnumbered) = .ok unnumbered ∧
      ¬ InOrder (.text "refs") unnumbered unnumbered := by
  refine ⟨exists_key_unnumbered, sort_unnumbered, fun hsorted => ?_⟩
  obtain ⟨hfirst, -⟩ := List.pairwise_cons.1 hsorted.ascending
  obtain ⟨a, b, ha, hb, hle⟩ := hfirst (symbol "main" "function" (.int 1)) (by simp)
  exact absurd ((inLine_iff ha hb).2 hle) (by decide)

end SymbolSieve.Sorting
