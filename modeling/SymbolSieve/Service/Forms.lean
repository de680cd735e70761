import SymbolSieve.Form.Scalar
import SymbolSieve.Form.Shape
import SymbolSieve.Json.Reader
import SymbolSieve.Service.Reply
import SymbolSieve.Spec.Basic

/-!
# What requests carry

The body of a request is JSON text with fields that are checked one by one. Fields that are not
expected do not matter, and fields that are left out have defaults.

## What is here

* `ParseForm`, `FilterForm`, `PresetForm`, `SymbolsForm`: what the requests carry.
* `readBody`: the value in a body, or the reply that it calls for.
-/

set_option autoImplicit false

namespace SymbolSieve

/-! ## Specifications -/

/-- Reads the value of a field of a specification. -/
def Field.read : Field → Value → Checked Value
  | .search | .kind | .state | .file => fun v => (Form.text v).map .text
  | .minRefs | .maxRefs => fun v =>
    (Form.optional Form.integer v).map fun n => (n.map .int).getD .null
  | .hasCallers | .hasCallees | .entry => fun v =>
    (Form.optional Form.truth v).map fun b => (b.map .bool).getD .null

/-- Reads the entries of a specification, one for each field. -/
def readEntries (es : Entries) : List Field → Checked Entries
  | [] => .ok []
  | f :: fs =>
    (Checked.both (Form.withDefault f.wireName f.default f.read es) (readEntries es fs)).map
      fun p => (f.wireName, p.1) :: p.2

/-- Reads a specification. -/
def Spec.read : Value → Checked Spec :=
  Form.fields fun es => (readEntries es Field.all).map Spec.ofEntries

/-! ## Forms -/

/-- A query to parse. -/
structure ParseForm where
  query : String
  deriving DecidableEq, Repr

/-- Records to filter, by a specification or else by a query, and how to sort them. -/
structure FilterForm where
  query : Option String
  filters : Option Spec
  records : List Value
  sort : Option String
  direction : String

/-- A preset to create, from a query or else from a specification. -/
structure PresetForm where
  name : String
  query : Option String
  filters : Option Spec

/-- A query for symbols of the backend, and how to sort them. -/
structure SymbolsForm where
  query : String
  sort : Option String
  direction : String
  deriving DecidableEq, Repr

/-- The directions in which records are sorted. -/
def directions : List String := ["asc", "desc"]

/-- Reads the direction of a sort. -/
def readDirection : Entries → Checked String :=
  Form.withDefault "direction" "asc" (Form.oneOf directions)

/-- Reads an optional text. -/
def readOptionalText (name : String) : Entries → Checked (Option String) :=
  Form.withDefault name none (Form.optional Form.text)

/-- Reads an optional specification. -/
def readFilters : Entries → Checked (Option Spec) :=
  Form.withDefault "filters" none (Form.optional Spec.read)

/-- Reads a query to parse. -/
def ParseForm.read : Value → Checked ParseForm :=
  Form.fields fun es => (Form.withDefault "query" "" Form.text es).map ParseForm.mk

/-- Reads records to filter. -/
def FilterForm.read : Value → Checked FilterForm :=
  Form.fields fun es =>
    (Checked.both (readOptionalText "query" es) (Checked.both (readFilters es)
      (Checked.both (Form.withDefault "records" [] (Form.list Form.mapping) es)
        (Checked.both (readOptionalText "sort" es) (readDirection es))))).map
      fun (query, filters, records, sort, direction) =>
        { query, filters, records, sort, direction }

/-- Reads a preset to create. -/
def PresetForm.read : Value → Checked PresetForm :=
  Form.fields fun es =>
    (Checked.both (Form.required "name" Form.nonEmptyText es)
      (Checked.both (readOptionalText "query" es) (readFilters es))).map
      fun (name, query, filters) => { name, query, filters }

/-- Reads a query for symbols from parameters, of which the last one of a name counts. -/
def SymbolsForm.read (params : Parameters) : Checked SymbolsForm :=
  let es : Entries := Assoc.ofPairs (params.map fun p => (p.1, Value.text p.2))
  Checked.within (.field "query")
    ((Checked.both (Form.withDefault "q" "" Form.text es)
      (Checked.both (readOptionalText "sort" es) (readDirection es))).map
      fun (query, sort, direction) => { query, sort, direction })

/-! ## Bodies -/

/-- The value that a body holds, or the reply that it calls for. The service fails on half of a pair
of UTF-16 units, which is no character. -/
def readBody (body : String) : Except Reply Value :=
  if body.isEmpty then .error (.rejected [⟨[.field "body"], .missing, .null⟩])
  else match Json.decodeBytes body.toUTF8 with
    | .ok v => if Json.hasHalfPair false body.toList then .error .failed else .ok v
    | .error (.unexpected offset) =>
      .error (.rejected [⟨[.field "body", .position offset], .notJson, .map []⟩])
    | .error _ => .error (.refused 400 "There was an error parsing the body")

/-- The form that a body holds, or the reply that it calls for. -/
def readForm {α : Type} (read : Value → Checked α) (body : String) : Except Reply α := do
  ((read (← readBody body)).within (.field "body")).mapError Reply.ofComplaints

end SymbolSieve
