import SymbolSieve.Query.Word

/-!
# Reading a query

A query is read word by word. Later words win over earlier ones for the same field, and the words
without a label, in order, are the text to search for.

## What is here

* `parse`: the specification that a query describes.
* `parseValue`: the same for a value that may be no text at all; such a value is an empty query.
-/

set_option autoImplicit false

namespace SymbolSieve.Query

/-- The words with what they say. -/
def readings (words : List String) : Except ValueFault (List (String × Reading)) :=
  words.mapM fun w => (readWord w).map (w, ·)

/-- The settings of all words, in order. -/
def allSettings (rs : List (String × Reading)) : List Setting :=
  rs.flatMap fun r => match r.2 with
    | .free => []
    | .sets settings => settings

theorem allSettings_cons (r : String × Reading) (rs : List (String × Reading)) :
    allSettings (r :: rs) = allSettings [r] ++ allSettings rs := by
  simp [allSettings]

/-- The words that are searched for, in order. -/
def freeWords (rs : List (String × Reading)) : List String :=
  rs.filterMap fun r => match r.2 with
    | .free => some r.1
    | .sets _ => none

theorem freeWords_cons (r : String × Reading) (rs : List (String × Reading)) :
    freeWords (r :: rs) = freeWords [r] ++ freeWords rs :=
  List.filterMap_append (l := [r])

/-- The specification that words with their readings describe. -/
def specOf (rs : List (String × Reading)) : Spec :=
  let s := (allSettings rs).foldl (fun s a => s.set a.1 a.2) Spec.unconstrained
  s.set .search (.text (Text.joined (freeWords rs)))

/-- The specification that a query describes. A number with too many digits is the only thing that
keeps a query from being read. -/
def parse (query : String) : Except ValueFault Spec :=
  (readings (Text.words query)).map specOf

/-- The specification that a value describes when it stands for a query. -/
def parseValue : Value → Except ValueFault Spec
  | .text query => parse query
  | _ => .ok .unconstrained

end SymbolSieve.Query
