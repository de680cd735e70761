import SymbolSieve.Assoc
import Mathlib.Data.List.Nodup

/-!
# Lists of pairs with distinct keys

Writing under a key keeps the keys distinct, so what was made by writing has distinct keys.  Where
the keys are distinct the order of reading does not matter: an entry is in the list exactly if it is
found under its key.

## What is here

* `get?_eq_none_iff`, `get?_eq_some_iff`: what is found, by what is in the list.
* `ext_get?`: a list is determined by its keys in order and by what is under them.
* `nodup_keys_put`, `nodup_keys_ofPairs`: the keys stay distinct.
* `mem_of_mem_ofPairs`: nothing is in the list of some pairs that is none of them.
* `get?_mapSnd`, `put_mapSnd`: what is under the keys may be looked at one by one.
* `ofPairs_of_nodup`: the list of pairs with distinct keys is these pairs.
-/

set_option autoImplicit false

namespace SymbolSieve.Assoc

variable {κ α : Type} [BEq κ]

/-- What holds of no entries and is kept by writing holds of the list of any pairs. -/
theorem ofPairs_induction {motive : Assoc κ α → Prop} (pairs : List (κ × α)) (hnil : motive [])
    (hput : ∀ p ∈ pairs, ∀ xs, motive xs → motive (put p.1 p.2 xs)) : motive (ofPairs pairs) := by
  have general : ∀ (pairs : List (κ × α)) (xs : Assoc κ α),
      (∀ p ∈ pairs, ∀ xs, motive xs → motive (put p.1 p.2 xs)) → motive xs →
        motive (pairs.foldl (fun xs p => put p.1 p.2 xs) xs) := by
    intro pairs
    induction pairs with
    | nil => intro xs _ hxs; exact hxs
    | cons p pairs ih =>
      intro xs hput hxs
      exact ih _ (fun q hq => hput q (List.mem_cons_of_mem _ hq))
        (hput p List.mem_cons_self xs hxs)
  exact general pairs [] hput hnil

/-! ## Keys that need not be told apart -/

theorem exists_mem_of_get?_eq_some {key : κ} {x : α} {xs : Assoc κ α}
    (h : get? key xs = some x) : ∃ k, (k, x) ∈ xs := by
  induction xs with
  | nil => cases h
  | cons e rest ih =>
    obtain ⟨k, y⟩ := e
    rw [get?] at h
    split at h
    · obtain rfl := Option.some.inj h
      exact ⟨k, List.mem_cons_self⟩
    · obtain ⟨k', hmem⟩ := ih h
      exact ⟨k', List.mem_cons_of_mem _ hmem⟩

/-- What is in a list after writing was written or was there before. -/
theorem snd_eq_or_mem_of_mem_put {key : κ} {x : α} {xs : Assoc κ α} {e : κ × α}
    (h : e ∈ put key x xs) : e.2 = x ∨ e ∈ xs := by
  induction xs with
  | nil => exact .inl (by rw [List.mem_singleton.1 h])
  | cons f rest ih =>
    obtain ⟨k, y⟩ := f
    rw [put] at h
    split at h
    · rcases List.mem_cons.1 h with rfl | hmem
      · exact .inl rfl
      · exact .inr (List.mem_cons_of_mem _ hmem)
    · rcases List.mem_cons.1 h with rfl | hmem
      · exact .inr List.mem_cons_self
      · exact (ih hmem).imp_right (List.mem_cons_of_mem _)

/-- A list in which something else is under the keys. -/
def mapSnd {β : Type} (f : α → β) (xs : Assoc κ α) : Assoc κ β := xs.map fun e => (e.1, f e.2)

theorem get?_mapSnd {β : Type} (f : α → β) (key : κ) (xs : Assoc κ α) :
    get? key (mapSnd f xs) = (get? key xs).map f := by
  induction xs with
  | nil => rfl
  | cons e rest ih =>
    obtain ⟨k, y⟩ := e
    show (if k == key then some (f y) else get? key (mapSnd f rest)) = _
    rw [ih, get?]
    split <;> rfl

theorem put_mapSnd {β : Type} (f : α → β) (key : κ) (x : α) (xs : Assoc κ α) :
    put key (f x) (mapSnd f xs) = mapSnd f (put key x xs) := by
  induction xs with
  | nil => rfl
  | cons e rest ih =>
    obtain ⟨k, y⟩ := e
    show (if k == key then (k, f x) :: mapSnd f rest
      else (k, f y) :: put key (f x) (mapSnd f rest)) =
      mapSnd f (if k == key then (k, x) :: rest else (k, y) :: put key x rest)
    rw [ih]
    split <;> rfl

variable [LawfulBEq κ]

/-! ## Reading -/

theorem get?_eq_none_iff {key : κ} {xs : Assoc κ α} : get? key xs = none ↔ key ∉ keys xs := by
  induction xs with
  | nil => simp [get?, keys]
  | cons e rest ih =>
    obtain ⟨k, x⟩ := e
    by_cases h : k = key
    · simp [get?, keys, h]
    · have hne : ¬ key = k := fun heq => h heq.symm
      simpa [get?, keys, h, hne] using ih

theorem mem_of_get?_eq_some {key : κ} {x : α} {xs : Assoc κ α} (h : get? key xs = some x) :
    (key, x) ∈ xs := by
  induction xs with
  | nil => cases h
  | cons e rest ih =>
    obtain ⟨k, y⟩ := e
    by_cases hk : k = key
    · obtain rfl : y = x := by simpa [get?, hk] using h
      simp [hk]
    · exact List.mem_cons_of_mem _ (ih (by simpa [get?, hk] using h))

/-- Where keys are distinct, an entry is found exactly if it is there. -/
theorem get?_eq_some_iff {key : κ} {x : α} {xs : Assoc κ α} (hnodup : (keys xs).Nodup) :
    get? key xs = some x ↔ (key, x) ∈ xs := by
  refine ⟨mem_of_get?_eq_some, fun h => ?_⟩
  induction xs with
  | nil => cases h
  | cons e rest ih =>
    obtain ⟨k, y⟩ := e
    obtain ⟨hnot, hrest⟩ := List.nodup_cons.1 hnodup
    rcases List.mem_cons.1 h with heq | hmem
    · cases heq
      simp [get?]
    · have hk : k ≠ key := by
        rintro rfl
        exact hnot (List.mem_map.2 ⟨(k, x), hmem, rfl⟩)
      simpa [get?, hk] using ih hrest hmem

/-- Lists with the same distinct keys in the same order are the same if the same is under every
key. -/
theorem ext_get? {xs ys : Assoc κ α} (hnodup : (keys xs).Nodup) (hkeys : keys xs = keys ys)
    (h : ∀ key, get? key xs = get? key ys) : xs = ys := by
  induction xs generalizing ys with
  | nil => exact (List.map_eq_nil_iff.1 hkeys.symm).symm
  | cons e xs ih =>
    obtain ⟨k, x⟩ := e
    obtain ⟨⟨k', y⟩, ys, rfl⟩ : ∃ e' ys', ys = e' :: ys' :=
      List.exists_cons_of_ne_nil fun hnil => by simp [keys, hnil] at hkeys
    obtain ⟨rfl, hrest⟩ : k = k' ∧ keys xs = keys ys := List.cons.inj hkeys
    obtain ⟨hnot, hnodup⟩ := List.nodup_cons.1 hnodup
    obtain rfl : x = y := by simpa [get?] using h k
    refine congrArg _ (ih hnodup hrest fun key => ?_)
    by_cases hk : k = key
    · subst hk
      rw [get?_eq_none_iff.2 hnot, get?_eq_none_iff.2 (hrest ▸ hnot)]
    · simpa [get?, hk] using h key

/-! ## Writing -/

theorem nodup_keys_put {key : κ} {x : α} {xs : Assoc κ α} (h : (keys xs).Nodup) :
    (keys (put key x xs)).Nodup := by
  rw [keys_put]
  split
  next => exact h
  next hnot => exact List.nodup_append.2 ⟨h, List.nodup_singleton key, by
    rintro k hk _ hkey rfl
    exact hnot ((List.mem_singleton.1 hkey) ▸ hk)⟩

/-- Writing what is there changes nothing. -/
theorem put_of_get?_eq_some {key : κ} {x : α} {xs : Assoc κ α} (h : get? key xs = some x) :
    put key x xs = xs := by
  induction xs with
  | nil => nomatch h
  | cons e rest ih =>
    obtain ⟨k, y⟩ := e
    by_cases hk : k = key
    · obtain rfl : y = x := by simpa [get?, hk] using h
      simp [put, hk]
    · simp [put, hk, ih (by simpa [get?, hk] using h)]

theorem mem_of_mem_put {key : κ} {x : α} {xs : Assoc κ α} {e : κ × α} (h : e ∈ put key x xs) :
    e = (key, x) ∨ e ∈ xs := by
  induction xs with
  | nil => exact .inl (List.mem_singleton.1 h)
  | cons f rest ih =>
    obtain ⟨k, y⟩ := f
    by_cases hk : k = key
    · rcases List.mem_cons.1 (by simpa [put, hk] using h) with heq | hmem
      · exact .inl heq
      · exact .inr (List.mem_cons_of_mem _ hmem)
    · rcases List.mem_cons.1 (by simpa [put, hk] using h) with heq | hmem
      · exact .inr (heq ▸ List.mem_cons_self)
      · exact (ih hmem).imp_right (List.mem_cons_of_mem _)

theorem put_of_not_mem {key : κ} (x : α) {xs : Assoc κ α} (h : key ∉ keys xs) :
    put key x xs = xs ++ [(key, x)] := by
  induction xs with
  | nil => rfl
  | cons e rest ih =>
    obtain ⟨k, y⟩ := e
    obtain ⟨hne, hrest⟩ : ¬ key = k ∧ key ∉ keys rest := by simpa [keys] using h
    have hk : ¬ k = key := fun heq => hne heq.symm
    simp [put, hk, ih hrest]

/-! ## Lists of pairs -/

theorem nodup_keys_ofPairs (pairs : List (κ × α)) : (keys (ofPairs pairs)).Nodup :=
  ofPairs_induction (motive := fun xs => (keys xs).Nodup) pairs List.nodup_nil
    fun _ _ _ => nodup_keys_put

theorem mem_of_mem_ofPairs {pairs : List (κ × α)} {e : κ × α} (h : e ∈ ofPairs pairs) :
    e ∈ pairs := by
  revert h
  refine ofPairs_induction (motive := fun xs => e ∈ xs → e ∈ pairs) pairs (by simp) ?_
  intro p hp xs ih h
  rcases mem_of_mem_put h with rfl | hmem
  · exact hp
  · exact ih hmem

theorem ofPairs_of_nodup {pairs : Assoc κ α} (h : (keys pairs).Nodup) : ofPairs pairs = pairs := by
  have general : ∀ (pairs xs : Assoc κ α), (keys (xs ++ pairs)).Nodup →
      pairs.foldl (fun xs p => put p.1 p.2 xs) xs = xs ++ pairs := by
    intro pairs
    induction pairs with
    | nil => intro xs _; simp
    | cons p pairs ih =>
      intro xs hnodup
      have hp : p.1 ∉ keys xs := by
        intro hmem
        have hdisjoint := (List.nodup_append.1 (by simpa [keys] using hnodup)).2.2
        exact hdisjoint p.1 hmem p.1 (by simp) rfl
      rw [List.foldl_cons, put_of_not_mem p.2 hp, ih _ (by simpa using hnodup)]
      simp
  exact general pairs [] h

end SymbolSieve.Assoc
