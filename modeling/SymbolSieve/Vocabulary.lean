import SymbolSieve.Value.Basic

/-!
# The vocabulary of the dashboard

The words and defaults that the filter engine shares with its views: the kinds and states of
symbols, the buckets of the reference-count menu, the built-in presets, and the keys under which
things are stored. Every default means "no constraint", so an untouched filter shows every symbol.
-/

set_option autoImplicit false

namespace SymbolSieve.Vocabulary

/-! ## Menus -/

/-- The kinds of symbol with their labels, as the kind menu shows them. -/
def kinds : List (String × String) :=
  [("all", "all kinds"), ("function", "functions"), ("method", "methods"), ("class", "classes"),
    ("struct", "structs"), ("enum", "enums"), ("interface", "interfaces"), ("type", "types"),
    ("variable", "variables")]

/-- The states of symbols with their labels, as the state menu shows them. -/
def states : List (String × String) :=
  [("all", "all states"), ("used", "used"), ("dead", "dead"), ("cycle", "in cycle"),
    ("entry", "entry points")]

/-- The words that a query accepts as a kind; `all` is one of them. -/
def kindWords : List String := kinds.map Prod.fst

/-- The words that a query accepts as a state; `all` is not one of them. -/
def stateWords : List String := (states.map Prod.fst).filter (· != "all")

/-- A bucket of the reference-count menu: its name, its bounds and its label. -/
structure RefsBucket where
  name : String
  min : Option Int
  max : Option Int
  label : String
  deriving DecidableEq, Repr

/-- The buckets of the reference-count menu. -/
def refsBuckets : List RefsBucket :=
  [⟨"all", none, none, "all refs"⟩, ⟨"0", some 0, some 0, "0 refs"⟩,
    ⟨"1-5", some 1, some 5, "1-5 refs"⟩, ⟨"6-20", some 6, some 20, "6-20 refs"⟩,
    ⟨"20+", some 20, none, "20+ refs"⟩]

/-- A bound of a bucket as a field value. -/
def bound (n : Option Int) : Value := match n with
  | some n => .int n
  | none => .null

/-- A quick filter: a label and the fields that it sets when it is on. -/
structure QuickFilter where
  label : String
  fields : Entries

/-- The built-in quick filters. -/
def quickFilters : List QuickFilter :=
  [⟨"functions", [("kind", .text "function")]⟩, ⟨"structs", [("kind", .text "struct")]⟩,
    ⟨"dead", [("state", .text "dead")]⟩, ⟨"cycles", [("state", .text "cycle")]⟩,
    ⟨"entry points", [("entry", .bool true)]⟩, ⟨"no callers", [("has_callers", .bool false)]⟩]

/-! ## Stored things -/

/-- The key of the state document. -/
def stateKey : String := "greppy-state"

/-- The key of the list of presets. -/
def presetsKey : String := "greppy-filter-presets"

/-- The version of the state document. -/
def stateVersion : Int := 1

/-- The columns of a table of symbols. -/
def columns : List String := ["name", "kind", "file", "line", "refs", "dead", "in_cycle"]

/-- The number of symbols that are asked for at once. -/
def listLimit : Nat := 500

end SymbolSieve.Vocabulary
