import SymbolSieve.Value.Order

/-!
# Filter specifications

A specification holds the current value of every filter. Each field has a default that constrains
nothing. Fields are dynamic values, because a specification may come from a stored document, a
request or a view; a specification that was read from a query is always well typed.

## What is here

* `Field`: the nine fields, each with a name for views (`minRefs`) and one for callers
  (`min_refs`), which accept both.
* `Spec`: the values of the fields, with `get` and `set`.
* `merge`: entries written over a specification; unknown names are ignored. `unchangedBy` says
  whether that changes anything.
* `isDefault`, `activeCount`: how far a specification is from the default.
-/

set_option autoImplicit false

namespace SymbolSieve

/-- The filters. -/
inductive Field where
  | search | kind | state | file | minRefs | maxRefs | hasCallers | hasCallees | entry
  deriving DecidableEq, Repr

namespace Field

/-- All fields in their order. -/
def all : List Field :=
  [search, kind, state, file, minRefs, maxRefs, hasCallers, hasCallees, entry]

theorem mem_all (f : Field) : f ∈ all := by cases f <;> decide

/-- The name of a field in views, requests and documents. -/
def wireName : Field → String
  | search => "search"
  | kind => "kind"
  | state => "state"
  | file => "file"
  | minRefs => "minRefs"
  | maxRefs => "maxRefs"
  | hasCallers => "hasCallers"
  | hasCallees => "hasCallees"
  | entry => "entry"

/-- The other name of a field. -/
def attributeName : Field → String
  | minRefs => "min_refs"
  | maxRefs => "max_refs"
  | hasCallers => "has_callers"
  | hasCallees => "has_callees"
  | f => f.wireName

/-- The field with a name for views. -/
def ofWireName? (name : String) : Option Field := all.find? (·.wireName = name)

/-- The field with the other kind of name. -/
def ofAttributeName? (name : String) : Option Field := all.find? (·.attributeName = name)

/-- The field with a name of either kind. -/
def ofName? (name : String) : Option Field := (ofWireName? name).or (ofAttributeName? name)

@[simp] theorem ofWireName?_wireName (f : Field) : ofWireName? f.wireName = some f := by
  cases f <;> rfl

@[simp] theorem ofName?_wireName (f : Field) : ofName? f.wireName = some f := by
  cases f <;> rfl

@[simp] theorem ofName?_attributeName (f : Field) : ofName? f.attributeName = some f := by
  cases f <;> rfl

/-- The value of a field that constrains nothing. -/
def default : Field → Value
  | search => .text ""
  | kind => .text "all"
  | state => .text "all"
  | file => .text ""
  | _ => .null

/-- The fields that outlive a session. The others are refinements of the session. -/
def durable : List Field := [search, kind, state, file]

end Field

/-- The values of all filters. -/
structure Spec where
  search : Value := Field.default .search
  kind : Value := Field.default .kind
  state : Value := Field.default .state
  file : Value := Field.default .file
  minRefs : Value := Field.default .minRefs
  maxRefs : Value := Field.default .maxRefs
  hasCallers : Value := Field.default .hasCallers
  hasCallees : Value := Field.default .hasCallees
  entry : Value := Field.default .entry
  deriving Inhabited

namespace Spec

/-- The value of a field. -/
def get (s : Spec) : Field → Value
  | .search => s.search
  | .kind => s.kind
  | .state => s.state
  | .file => s.file
  | .minRefs => s.minRefs
  | .maxRefs => s.maxRefs
  | .hasCallers => s.hasCallers
  | .hasCallees => s.hasCallees
  | .entry => s.entry

/-- The specification with another value in a field. -/
def set (s : Spec) (f : Field) (v : Value) : Spec :=
  match f with
  | .search => { s with search := v }
  | .kind => { s with kind := v }
  | .state => { s with state := v }
  | .file => { s with file := v }
  | .minRefs => { s with minRefs := v }
  | .maxRefs => { s with maxRefs := v }
  | .hasCallers => { s with hasCallers := v }
  | .hasCallees => { s with hasCallees := v }
  | .entry => { s with entry := v }

/-- The specification that constrains nothing. -/
def unconstrained : Spec := {}

@[simp] theorem get_unconstrained (f : Field) : unconstrained.get f = f.default := by
  cases f <;> rfl

@[simp] theorem get_set_self (s : Spec) (f : Field) (v : Value) : (s.set f v).get f = v := by
  cases f <;> rfl

theorem get_set_of_ne (s : Spec) {f g : Field} (v : Value) (h : g ≠ f) :
    (s.set f v).get g = s.get g := by
  cases f <;> cases g <;> first | rfl | exact absurd rfl h

/-- A specification is determined by its fields. -/
theorem ext_get {s t : Spec} (h : ∀ f, s.get f = t.get f) : s = t := by
  cases s; cases t
  simp only [mk.injEq]
  exact ⟨h .search, h .kind, h .state, h .file, h .minRefs, h .maxRefs, h .hasCallers,
    h .hasCallees, h .entry⟩

/-! ## Distance from the default -/

/-- Whether every field has its default. -/
def isDefault (s : Spec) : Bool := Field.all.all fun f => (s.get f).equal f.default

/-- The fields that do not have their default. -/
def activeFields (s : Spec) : List Field := Field.all.filter fun f => !(s.get f).equal f.default

/-- The number of fields that do not have their default. -/
def activeCount (s : Spec) : Nat := s.activeFields.length

/-! ## Entries -/

/-- The fields by their names for views. -/
def entries (s : Spec) : Entries := Field.all.map fun f => (f.wireName, s.get f)

/-- The fields that outlive a session. -/
def durableEntries (s : Spec) : Entries := Field.durable.map fun f => (f.wireName, s.get f)

/-- One entry written over a specification. -/
def mergeEntry (s : Spec) (e : String × Value) : Spec :=
  match Field.ofName? e.1 with
  | some f => s.set f e.2
  | none => s

/-- Entries written over a specification, in order; unknown names are ignored. -/
def merge (s : Spec) (es : Entries) : Spec := es.foldl mergeEntry s

/-- Whether a specification is the same after entries have been written over it: every field that
they name has an equal value before. -/
def unchangedBy (s : Spec) (es : Entries) : Bool :=
  (es.filterMap fun e => Field.ofName? e.1).all fun f => (s.get f).equal ((s.merge es).get f)

/-- The specification that entries make of the default. -/
def ofEntries (es : Entries) : Spec := unconstrained.merge es

@[simp] theorem merge_nil (s : Spec) : s.merge [] = s := rfl

theorem merge_append (s : Spec) (es fs : Entries) : s.merge (es ++ fs) = (s.merge es).merge fs := by
  simp [merge]

/-- The fields of a specification, written over any other one, give the specification back. -/
theorem merge_entries (s t : Spec) : t.merge s.entries = s := by
  simp only [merge, entries, Field.all, List.map_cons, List.map_nil, List.foldl_cons,
    List.foldl_nil, mergeEntry, Field.ofName?_wireName, set]
  rfl

end Spec

end SymbolSieve
