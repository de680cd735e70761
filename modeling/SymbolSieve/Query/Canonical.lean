import SymbolSieve.Spec.Basic
import SymbolSieve.Value.Shown
import SymbolSieve.Text.Blank

/-!
# The canonical query of a specification

A specification is written as a query in a fixed order: search text, kind, state, file, references,
callers, callees, entry. Fields that constrain nothing are left out, so the canonical query of the
default is empty.
-/

set_option autoImplicit false

namespace SymbolSieve.Query

/-- A label with the text of a value. -/
def labelled (label : String) (v : Value) : Except ValueFault String :=
  v.shown.map (label ++ ·)

/-- The words for a field that is left out under a condition. -/
def unlessThat (left : Bool) (label : String) (v : Value) : Except ValueFault (List String) :=
  if left then .ok [] else (labelled label v).map ([·])

/-- The words for the bounds on references. -/
def refsWords (s : Spec) : Except ValueFault (List String) :=
  if !s.minRefs.isNull && s.minRefs.equal s.maxRefs then (labelled "refs:" s.minRefs).map ([·])
  else do
    let low ← unlessThat s.minRefs.isNull "refs:>" s.minRefs
    let high ← unlessThat s.maxRefs.isNull "refs:<" s.maxRefs
    return low ++ high

/-- The words for a field that asks for presence or absence. Only the two truth values say
anything. -/
def presenceWords (name : String) : Value → List String
  | .bool true => ["has:" ++ name]
  | .bool false => [name ++ ":0"]
  | _ => []

/-- The words for the entry field. -/
def entryWords : Value → List String
  | .bool true => ["entry:true"]
  | _ => []

/-- The words of the canonical query after the search text. -/
def labelledWords (s : Spec) : Except ValueFault (List String) := do
  let kind ← unlessThat (s.kind.equal (.text "all")) "kind:" s.kind
  let state ← unlessThat (s.state.equal (.text "all")) "state:" s.state
  let file ← unlessThat (!s.file.truthy) "file:" s.file
  let refs ← refsWords s
  return kind ++ state ++ file ++ refs ++ presenceWords "callers" s.hasCallers ++
    presenceWords "callees" s.hasCallees ++ entryWords s.entry

/-- The search text of the canonical query. -/
def searchWords (s : Spec) : Except ValueFault (List String) :=
  if !s.search.truthy then .ok []
  else match s.search with
    | .text search => .ok [search]
    | _ => .error .wrongKind

/-- The canonical query of a specification. A field of a kind that has no text, or a search that is
no text, keeps it from being written. -/
def canonical (s : Spec) : Except ValueFault String := do
  let rest ← labelledWords s
  let search ← searchWords s
  return Text.joined (search ++ rest)

end SymbolSieve.Query
