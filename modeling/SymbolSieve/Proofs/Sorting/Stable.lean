import Mathlib.Data.List.Sort
import Mathlib.Order.Defs.LinearOrder

/-!
# Stable sorting

A list that is sorted by some measure of its members has two properties: the measures never
decrease, and the members of one measure are those of the original list, in their order.  No other
list has both of them.  So whatever keeps the two properties commutes with sorting, and picking some
of the members does.

## What is here

* `arrange`: a list sorted by a measure.
* `filter_arrange_eq`: members of one measure keep their order.
* `eq_of_pairwise_of_filter_eq`: nothing else is sorted and keeps the order.
* `filter_arrange`: picking members commutes with sorting.
-/

set_option autoImplicit false

namespace SymbolSieve.Sorting

variable {α β : Type} {f : α → β}

/-- Lists with the same members of each measure have the same members. -/
theorem mem_iff_of_filter_eq [DecidableEq β] {l l' : List α}
    (h : ∀ b, l.filter (f · = b) = l'.filter (f · = b)) (a : α) : a ∈ l ↔ a ∈ l' := by
  have hclass : a ∈ l.filter (f · = f a) ↔ a ∈ l'.filter (f · = f a) := by rw [h]
  simpa using hclass

variable [LinearOrder β]

/-- A list sorted by a measure of its members. -/
def arrange (f : α → β) (l : List α) : List α := l.mergeSort fun a b => decide (f a ≤ f b)

theorem arrange_perm (f : α → β) (l : List α) : (arrange f l).Perm l := List.mergeSort_perm l _

theorem decide_le_trans (f : α → β) (a b c : α) (hab : decide (f a ≤ f b) = true)
    (hbc : decide (f b ≤ f c) = true) : decide (f a ≤ f c) = true := by
  rw [decide_eq_true_eq] at *
  exact hab.trans hbc

theorem decide_le_total (f : α → β) (a b : α) :
    (decide (f a ≤ f b) || decide (f b ≤ f a)) = true := by
  rw [Bool.or_eq_true, decide_eq_true_eq, decide_eq_true_eq]
  exact le_total (f a) (f b)

/-- The measures never decrease. -/
theorem pairwise_arrange (f : α → β) (l : List α) :
    (arrange f l).Pairwise fun a b => f a ≤ f b :=
  (List.pairwise_mergeSort (decide_le_trans f) (decide_le_total f) l).imp of_decide_eq_true

/-- Members of one measure keep their order. -/
theorem filter_arrange_eq [DecidableEq β] (f : α → β) (l : List α) (b : β) :
    (arrange f l).filter (f · = b) = l.filter (f · = b) := by
  have hclass : (l.filter (f · = b)).Pairwise fun a a' => decide (f a ≤ f a') = true := by
    refine List.pairwise_of_forall_mem_list fun a ha a' ha' => ?_
    simp_all
  have hsublist : (l.filter (f · = b)).Sublist (arrange f l) :=
    List.sublist_mergeSort (decide_le_trans f) (decide_le_total f) hclass List.filter_sublist
  have hfilter := hsublist.filter (f · = b)
  rw [List.filter_filter] at hfilter
  simp only [Bool.and_self] at hfilter
  exact (hfilter.eq_of_length ((arrange_perm f l).filter _).length_eq.symm).symm

/-- **A sorted list is determined by its members of each measure**, in their order. -/
theorem eq_of_pairwise_of_filter_eq [DecidableEq β] {l l' : List α}
    (h : l.Pairwise fun a b => f a ≤ f b) (h' : l'.Pairwise fun a b => f a ≤ f b)
    (hfilter : ∀ b, l.filter (f · = b) = l'.filter (f · = b)) : l = l' := by
  have hmem := mem_iff_of_filter_eq hfilter
  induction l generalizing l' with
  | nil => exact (List.eq_nil_iff_forall_not_mem.2 fun a ha => by simpa using (hmem a).2 ha).symm
  | cons a l ih =>
    cases l' with
    | nil => exact absurd ((hmem a).1 List.mem_cons_self) List.not_mem_nil
    | cons b l' =>
      obtain ⟨hleast, hrest⟩ := List.pairwise_cons.1 h
      obtain ⟨hleast', hrest'⟩ := List.pairwise_cons.1 h'
      -- Both lists begin with a least measure, so each first member leads the same class.
      have hle : f a ≤ f b := by
        rcases List.mem_cons.1 ((hmem b).2 List.mem_cons_self) with rfl | hb
        · exact le_rfl
        · exact hleast b hb
      have hge : f b ≤ f a := by
        rcases List.mem_cons.1 ((hmem a).1 List.mem_cons_self) with rfl | ha
        · exact le_rfl
        · exact hleast' a ha
      have hmeasure := le_antisymm hle hge
      obtain rfl : a = b := by
        have hclass := hfilter (f a)
        simp only [List.filter_cons, hmeasure, decide_true, if_true] at hclass
        exact (List.cons.inj hclass).1
      have htail : ∀ c, l.filter (f · = c) = l'.filter (f · = c) := by
        intro c
        have hclass := hfilter c
        simp only [List.filter_cons] at hclass
        split at hclass
        · exact (List.cons.inj hclass).2
        · exact hclass
      exact congrArg (a :: ·) (ih hrest hrest' htail (mem_iff_of_filter_eq htail))

/-- **Picking members commutes with sorting.** -/
theorem filter_arrange (f : α → β) (p : α → Bool) (l : List α) :
    (arrange f l).filter p = arrange f (l.filter p) := by
  refine eq_of_pairwise_of_filter_eq ((pairwise_arrange f l).filter p) (pairwise_arrange f _)
    fun b => ?_
  calc ((arrange f l).filter p).filter (f · = b)
      = ((arrange f l).filter (f · = b)).filter p := List.filter_comm ..
    _ = (l.filter (f · = b)).filter p := by rw [filter_arrange_eq]
    _ = (l.filter p).filter (f · = b) := List.filter_comm ..
    _ = (arrange f (l.filter p)).filter (f · = b) := (filter_arrange_eq f _ b).symm

end SymbolSieve.Sorting
