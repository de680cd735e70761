import SymbolSieve.Query.Parse
import SymbolSieve.Value.Items
import SymbolSieve.Value.Shown

/-!
# Changes of the filters

The ways in which the live filters are changed. What a change makes of a specification depends on
nothing else; storing and announcing the result is the engine's work.

## What is here

* `Change`: the changes.
* `Change.apply`: what a change makes of a specification.
* `Change.unknown`: the names in a change that belong to no field.
* `Change.ofValues`: the update that values stand for.
-/

set_option autoImplicit false

namespace SymbolSieve

/-- A change of the filters. -/
inductive Change where
  /-- Writes fields, under names of either kind. -/
  | update (fields : Entries)
  /-- Gives every field its default. -/
  | reset
  /-- Replaces everything by what a query describes. -/
  | query (query : Value)
  /-- Gives the field behind a chip its default. -/
  | removeFilter (key : Value)

namespace Change

/-- What is left of a specification when the filter behind a chip is removed. Names of other kinds,
unknown names and the search leave it as it is. -/
def withoutFilter (s : Spec) (key : Value) : Except ValueFault Spec :=
  match key with
  | .text name => match Field.ofWireName? name with
    | some .search | none => .ok s
    | some f => .ok (s.set f f.default)
  | key => if key.isKey then .ok s else .error .wrongKind

/-- What a change makes of a specification. -/
def apply (s : Spec) : Change → Except ValueFault Spec
  | .update fields => .ok (s.merge fields)
  | .reset => .ok .unconstrained
  | .query q => Query.parseValue q
  | .removeFilter key => withoutFilter s key

/-- The names in a change that belong to no field. -/
def unknown : Change → List String
  | .update fields => (Assoc.keys fields).filter fun k => (Field.ofName? k).isNone
  | _ => []

/-- The message about unknown names. -/
def unknownMessage (names : List String) : String :=
  "Ignoring unknown filter fields: [" ++ ", ".intercalate (names.map Text.quoted) ++ "]"

end Change

/-! ## Updates given as values -/

/-- The entries of an update with changes that win over it. -/
def withChanges (fields changes : Entries) : Entries :=
  changes.foldl (fun es e => Assoc.put e.1 e.2 es) fields

/-- The entries that a value stands for when it is given as an update. What does not count as
present is an empty update. -/
def updatesOf (v : Value) : Except ValueFault Entries := if v.truthy then v.pairs else .ok []

/-- Names that an update has for what it works on; no change is given under them. -/
def reservedNames : List String := ["self", "partial"]

/-- The changes that a mapping gives by name. -/
def changesOf : Value → Except ValueFault Entries
  | .map changes =>
    if reservedNames.any fun name => (Assoc.get? name changes).isSome then .error .wrongKind
    else .ok changes
  | _ => .error .wrongKind

/-- The update that a value stands for, with changes that win over it. -/
def Change.ofValues (fields changes : Value) : Except ValueFault Change := do
  let changes ← changesOf changes
  return .update (withChanges (← updatesOf fields) changes)

end SymbolSieve
