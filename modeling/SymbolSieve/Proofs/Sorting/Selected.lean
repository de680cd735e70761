import SymbolSieve.Proofs.Selection.Independence
import SymbolSieve.Proofs.Sorting.InOrder

/-!
# Selecting and sorting

Records may be selected first and sorted then, or sorted first and selected then.  The result is the
same, equal keys included, because sorting is stable and descending order is the reverse of
ascending order.  It takes keys that are in a linear order: where one of them is not-a-number, the
records around it may be left where they are, and without it they would be sorted.

## What is here

* `sort_select_comm`: selecting and sorting may be done in either order.
-/

set_option autoImplicit false

namespace SymbolSieve.Sorting

open Selection

variable {s : Spec} {column : Value} {records : List Value}

/-- What sorting gives if every record has a rank. -/
theorem sort_eq_arrange (h : ∀ r ∈ records, ∃ a, rankOf? column r = some a) (direction : Value) :
    sort column direction (.list records) =
      .ok (inDirection direction (arrange (rankOf column) records)) := by
  have hkeys : ∀ r ∈ records, ∃ k, key column r = .ok k := by
    intro r hr
    obtain ⟨a, ha⟩ := h r hr
    exact exists_key_of_rankOf? ha
  rw [sort_eq hkeys, mergeSort_inLine_eq h]

/-- **Selecting and sorting may be done in either order** if no key is not-a-number. -/
theorem sort_select_comm (hkeys : ∀ r ∈ records, ∃ k, key column r = .ok k ∧ k ≠ .number .nan)
    (hmatches : ∀ r ∈ records, ∃ b, selects s r = .ok b) (direction : Value) :
    ∃ result : List Value,
      (do sort column direction (.list (← select s (.list records)))) = .ok result ∧
        (do select s (.list (← sort column direction (.list records)))) = .ok result := by
  have hranked : ∀ r ∈ records, ∃ a, rankOf? column r = some a := by
    intro r hr
    obtain ⟨k, hk, hnan⟩ := hkeys r hr
    rw [exists_rankOf?_iff ⟨k, hk⟩, hk]
    exact fun h => hnan (Except.ok.inj h)
  obtain ⟨p, hp⟩ : ∃ p : Value → Bool, ∀ r ∈ records, selects s r = .ok (p r) := by
    refine ⟨fun r => decide (selects s r = .ok true), fun r hr => ?_⟩
    obtain ⟨b, hb⟩ := hmatches r hr
    cases b <;> simp [hb]
  have hselected : ∀ r ∈ records.filter p, ∃ a, rankOf? column r = some a := fun r hr =>
    hranked r (List.mem_of_mem_filter hr)
  have hsorted : ∀ r ∈ inDirection direction (arrange (rankOf column) records),
      selects s r = .ok (p r) := fun r hr =>
    hp r ((arrange_perm _ _).mem_iff.1 ((inDirection_perm _ _).mem_iff.1 hr))
  refine ⟨inDirection direction (arrange (rankOf column) (records.filter p)), ?_, ?_⟩
  · rw [select_eq_filter hp]
    exact sort_eq_arrange hselected direction
  · rw [sort_eq_arrange hranked]
    refine (select_eq_filter hsorted).trans ?_
    rw [filter_inDirection, filter_arrange]

/-- Only functions are asked for. -/
def functions : Spec := { kind := .text "function" }

theorem sort_select_comm_tied :
    (∀ r ∈ tied, ∃ k, key (.text "refs") r = .ok k ∧ k ≠ .number .nan) ∧
      (∀ r ∈ tied, ∃ b, selects functions r = .ok b) ∧
      ∃ result : List Value,
        (do sort (.text "refs") (.text "desc") (.list (← select functions (.list tied)))) =
          .ok result ∧
        (do select functions (.list (← sort (.text "refs") (.text "desc") (.list tied)))) =
          .ok result := by
  have hmatches : ∀ r ∈ tied, ∃ b, selects functions r = .ok b :=
    List.forall_iff_forall_mem.1 ⟨⟨_, rfl⟩, ⟨_, rfl⟩, ⟨_, rfl⟩, ⟨_, rfl⟩⟩
  exact ⟨exists_key_tied, hmatches, sort_select_comm exists_key_tied hmatches (.text "desc")⟩

/-- The functions among records of which another one is keyed by not-a-number. -/
def numbered : List Value :=
  [symbol "run" "function" (.int 5), symbol "parse" "function" (.int 6),
    symbol "main" "function" (.int 1)]

theorem select_unnumbered : select functions (.list unnumbered) = .ok numbered := rfl

/-- Without the record that was between them, the last function is put first. -/
theorem sort_numbered : sort (.text "refs") (.text "asc") (.list numbered) =
    .ok [symbol "main" "function" (.int 1), symbol "run" "function" (.int 5),
      symbol "parse" "function" (.int 6)] := by
  have hkeys : ∀ r ∈ numbered, ∃ k, key (.text "refs") r = .ok k :=
    List.forall_iff_forall_mem.1 ⟨⟨_, rfl⟩, ⟨_, rfl⟩, ⟨_, rfl⟩⟩
  have hfirst : inLine (.text "refs") (symbol "run" "function" (.int 5))
      (symbol "parse" "function" (.int 6)) = true := by decide
  have hlast : inLine (.text "refs") (symbol "run" "function" (.int 5))
      (symbol "main" "function" (.int 1)) = false := by decide
  rw [sort_eq hkeys, inDirection_of_ne (by simp)]
  simp [numbered, List.mergeSort, List.MergeSort.Internal.splitInTwo, hfirst, hlast]

/-- Records for which it matters whether they are selected or sorted first. -/
theorem sort_select_differ :
    (∀ r ∈ unnumbered, ∃ k, key (.text "refs") r = .ok k) ∧
      (∀ r ∈ unnumbered, ∃ b, selects functions r = .ok b) ∧
      (do sort (.text "refs") (.text "asc") (.list (← select functions (.list unnumbered)))) =
        .ok [symbol "main" "function" (.int 1), symbol "run" "function" (.int 5),
          symbol "parse" "function" (.int 6)] ∧
      (do select functions (.list (← sort (.text "refs") (.text "asc") (.list unnumbered)))) =
        .ok [symbol "run" "function" (.int 5), symbol "parse" "function" (.int 6),
          symbol "main" "function" (.int 1)] := by
  refine ⟨exists_key_unnumbered, ?_, ?_, ?_⟩
  · exact List.forall_iff_forall_mem.1 ⟨⟨_, rfl⟩, ⟨_, rfl⟩, ⟨_, rfl⟩, ⟨_, rfl⟩⟩
  · rw [select_unnumbered]
    exact sort_numbered
  · rw [sort_unnumbered]
    exact select_unnumbered

end SymbolSieve.Sorting
