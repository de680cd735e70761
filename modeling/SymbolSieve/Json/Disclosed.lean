import SymbolSieve.Value.Basic

/-!
# Values that are shown to others

Entries whose keys start with `_sa` are for the bookkeeping of a database layer. Values that are
shown as they were found are shown without such entries, and the nesting of values that are shown in
a checked form is limited.

## What is here

* `isInternal`, `disclosed`: the keys that are not shown, and a value without their entries.
* `height`, `heightLimit`: how many values stand inside one another, and how many may.
-/

set_option autoImplicit false

namespace SymbolSieve.Json

/-- Whether a key is for bookkeeping. -/
def isInternal (key : String) : Bool := "_sa".toList.isPrefixOf key.toList

mutual

/-- A value without the entries that are for bookkeeping, at any depth. -/
def disclosed : Value → Value
  | .list items => .list (disclosedItems items)
  | .map entries => .map (disclosedEntries entries)
  | v => v

/-- Items without the entries that are for bookkeeping. -/
def disclosedItems : List Value → List Value
  | [] => []
  | v :: rest => disclosed v :: disclosedItems rest

/-- The entries that are not for bookkeeping. -/
def disclosedEntries : List (String × Value) → List (String × Value)
  | [] => []
  | (k, v) :: rest =>
    if isInternal k then disclosedEntries rest else (k, disclosed v) :: disclosedEntries rest

end

theorem not_isInternal_of_mem_disclosedEntries {e : String × Value} :
    {es : List (String × Value)} → e ∈ disclosedEntries es → isInternal e.1 = false
  | [], h => by simp [disclosedEntries] at h
  | (k, v) :: rest, h => by
    rw [disclosedEntries] at h
    split at h
    · exact not_isInternal_of_mem_disclosedEntries h
    · next hk =>
      rcases List.mem_cons.1 h with rfl | h
      · simpa using hk
      · exact not_isInternal_of_mem_disclosedEntries h

mutual

/-- How many values stand inside one another, the innermost and the outermost included. -/
def height : Value → Nat
  | .list items => itemsHeight items + 1
  | .map entries | .object entries => entriesHeight entries + 1
  | _ => 1

/-- The greatest height of some items. -/
def itemsHeight : List Value → Nat
  | [] => 0
  | v :: rest => max (height v) (itemsHeight rest)

/-- The greatest height of the values of some entries. -/
def entriesHeight : List (String × Value) → Nat
  | [] => 0
  | (_, v) :: rest => max (height v) (entriesHeight rest)

end

/-- How many values may stand inside one another in a field of a record. -/
def heightLimit : Nat := 254

end SymbolSieve.Json
