/-!
# Association lists

Documents, records and stores keep something under each of their keys, and show their keys in the
order in which these were first written. Lists of pairs with distinct keys do that.

## What is here

`Assoc` with `get?`, `put`, `erase` and `keys`: a key that is written again keeps its place, and a
new key comes last. Keys are compared by `==`, which need not tell all keys apart.
-/

set_option autoImplicit false

namespace SymbolSieve

/-- Keys with what is under them, in the order in which the keys were first written. -/
abbrev Assoc (κ α : Type) := List (κ × α)

namespace Assoc

variable {κ α : Type}

/-! ## Operations -/

/-- What is under a key. -/
def get? [BEq κ] (key : κ) : Assoc κ α → Option α
  | [] => none
  | (k, x) :: rest => if k == key then some x else get? key rest

/-- The list with something under a key; a key that is there keeps its place, a new one comes
last. -/
def put [BEq κ] (key : κ) (x : α) : Assoc κ α → Assoc κ α
  | [] => [(key, x)]
  | (k, y) :: rest => if k == key then (k, x) :: rest else (k, y) :: put key x rest

/-- The list without a key. -/
def erase [BEq κ] (key : κ) (xs : Assoc κ α) : Assoc κ α := xs.filter fun e => !(e.1 == key)

/-- The keys in order. -/
def keys (xs : Assoc κ α) : List κ := xs.map Prod.fst

/-- The list of some pairs, a later pair with the same key overwriting what is under it. -/
def ofPairs [BEq κ] (pairs : List (κ × α)) : Assoc κ α :=
  pairs.foldl (fun xs p => put p.1 p.2 xs) []

/-! ## Laws -/

variable [BEq κ] [LawfulBEq κ]

@[simp] theorem get?_put_self (key : κ) (x : α) (xs : Assoc κ α) :
    get? key (put key x xs) = some x := by
  induction xs with
  | nil => simp [put, get?]
  | cons e rest ih =>
    obtain ⟨k, y⟩ := e
    by_cases h : k = key <;> simp [put, get?, h, ih]

theorem get?_put_of_ne {key other : κ} (x : α) (xs : Assoc κ α) (h : other ≠ key) :
    get? other (put key x xs) = get? other xs := by
  induction xs with
  | nil => simp [put, get?, h.symm]
  | cons e rest ih =>
    obtain ⟨k, y⟩ := e
    by_cases hk : k = key
    · subst hk; simp [put, get?, h.symm]
    · simp [put, get?, hk, ih]

/-- A key that is there keeps its place, and a new one comes last. -/
theorem keys_put (key : κ) (x : α) (xs : Assoc κ α) :
    keys (put key x xs) = if key ∈ keys xs then keys xs else keys xs ++ [key] := by
  induction xs with
  | nil => simp [put, keys]
  | cons e rest ih =>
    obtain ⟨k, y⟩ := e
    by_cases hk : k = key
    · simp [put, keys, hk]
    · have ih' : (put key x rest).map Prod.fst
          = if key ∈ rest.map Prod.fst then rest.map Prod.fst else rest.map Prod.fst ++ [key] := ih
      by_cases hmem : key ∈ rest.map Prod.fst <;>
        simp [put, keys, hk, ih', hmem, Ne.symm hk]

@[simp] theorem get?_erase_self (key : κ) (xs : Assoc κ α) : get? key (erase key xs) = none := by
  induction xs with
  | nil => rfl
  | cons e rest ih =>
    obtain ⟨k, y⟩ := e
    by_cases h : k = key
    · simpa [erase, h] using ih
    · simpa [erase, h, get?] using ih

theorem get?_erase_of_ne {key other : κ} (xs : Assoc κ α) (h : other ≠ key) :
    get? other (erase key xs) = get? other xs := by
  induction xs with
  | nil => rfl
  | cons e rest ih =>
    obtain ⟨k, y⟩ := e
    by_cases hk : k = key
    · subst hk; simpa [erase, get?, h.symm] using ih
    · have herase : erase key ((k, y) :: rest) = (k, y) :: erase key rest := by simp [erase, hk]
      simp [herase, get?, ih]

end Assoc

end SymbolSieve
