import SymbolSieve.Backend.Address
import SymbolSieve.Value.Items

/-!
# Parameters of requests

A request can carry parameters: names with values, all of them texts. A name may have several
values.

## What is here

* `Parameters.ofQuery`: the parameters that the query of an address spells.
* `Parameters.text`, `Parameters.ofEntries`, `Parameters.ofValue`: the parameters that values stand
  for.
* `Parameters.grouped`: parameters with the values of each name next to each other.
* `Parameters.query`, `Parameters.fits`: the query that spells parameters, which has to be short
  enough for an address.
-/

set_option autoImplicit false

namespace SymbolSieve

/-- Names with values. -/
abbrev Parameters := List (String × String)

namespace Parameters

/-! ## Queries -/

/-- A parameter as it is written: a name, an equals sign and a value, in which a plus sign stands
for a space. -/
def read (written : List Char) : String × String :=
  let plain (s : List Char) : String :=
    Percent.decode (String.ofList (s.map fun c => if c = '+' then ' ' else c))
  (plain (written.takeWhile (· != '=')), plain ((written.dropWhile (· != '=')).drop 1))

/-- The parameters that a query spells. -/
def ofQuery (query : List Char) : Parameters :=
  ((Text.splitAt '&' query).filter fun written => !written.isEmpty).map read

/-- A name or a value as it is written in a query that is sent. -/
def written (s : String) : List Char :=
  s.toList.flatMap fun c =>
    if c = ' ' then ['+'] else if Percent.isUnreserved c then [c] else Percent.encodeChar c

/-- The query that spells parameters. -/
def query (params : Parameters) : List Char :=
  List.intercalate ['&'] (params.map fun p => written p.1 ++ '=' :: written p.2)

/-- Whether the query that spells parameters is short enough for an address. -/
def fits (params : Parameters) : Bool := params.query.length ≤ Address.lengthLimit

/-! ## Values -/

/-- A value as it is sent: truth values have lower-case names and null is empty. -/
def text : Value → Except ValueFault String
  | .null => .ok ""
  | .bool b => .ok (if b then "true" else "false")
  | v => v.shown

/-- The parameters for a name with a value; a list stands for several. -/
def ofEntry (e : String × Value) : Except ValueFault Parameters :=
  match e.2 with
  | .list vs => vs.mapM fun v => (text v).map (e.1, ·)
  | v => (text v).map fun t => [(e.1, t)]

/-- The parameters for names with values. -/
def ofEntries (es : Entries) : Except ValueFault Parameters := (es.mapM ofEntry).map List.flatten

/-- Parameters in the order in which their names first occur. -/
def grouped (params : Parameters) : Parameters :=
  (params.map Prod.fst).eraseDups.flatMap fun name => params.filter fun p => p.1 == name

/-- The parameters that a value stands for: a query, the names of a mapping with their values, or
pairs of a name and a value. -/
def ofValue : Value → Except ValueFault Parameters
  | .text query => .ok (ofQuery query.toList)
  | .list pairs => do
    let ps ← pairs.mapM fun v => do
      let (name, x) ← v.pair
      return (name, ← text x)
    return grouped ps
  | v => v.entries >>= ofEntries

end Parameters

end SymbolSieve
