import SymbolSieve.Backend.Address
import SymbolSieve.Backend.Parameters

/-!
# Targets of requests

A request to the service names its target by an address. One that is not absolute is an address
inside the service; of one that is, the host does not matter.

## What is here

* `TargetFault`: why an address names no target.
* `Target`, `Target.ofText`: what a request asks for, a path and parameters.
* `Target.movedPath?`: where a request arrives that is sent on.
-/

set_option autoImplicit false

namespace SymbolSieve

/-- Why an address names no target. -/
inductive TargetFault where
  /-- The text is no address. -/
  | invalid
  | unknownScheme
  /-- The scheme asks for a lasting exchange of messages, which the service does not offer. -/
  | exchange
  /-- The host has colons in it, so that no number can be told from it. -/
  | noNumber
  deriving DecidableEq, Repr

/-- What a request asks for: a path without percent-encoding, and parameters in their order. -/
structure Target where
  path : String
  params : Parameters
  deriving DecidableEq, Repr

namespace Target

/-- The root of the service. -/
def root : Address :=
  { scheme := "http".toList, authority := { host := "service".toList }, path := ['/'] }

/-- The schemes by which the service can be asked, the last two of them for a lasting exchange. -/
def schemes : List String := ["http", "https", "ws", "wss"]

/-- The target that an address names. The encoding of its path is taken away twice, once for the
address and once for the path. -/
def ofAddress (a : Address) : Except TargetFault Target :=
  let scheme := String.ofList a.scheme
  if !schemes.contains scheme then .error .unknownScheme
  else if Host.isBracketed a.authority.host then .error .noNumber
  else if (schemes.drop 2).contains scheme then .error .exchange
  else
    let (path, query) := Percent.splitQuery a.target
    .ok { path := Percent.decode (Percent.decode (String.ofList path))
          params := Parameters.ofQuery (query.getD []) }

/-- The path at which a request arrives that is sent on to a path. The encoding is put on once and
taken away twice, and dot segments are followed. -/
def movedPath? (path : String) : Option String := do
  let plain (c : Char) : Bool := Percent.isUnreserved c || c = '/'
  let a ← Address.ofText? (String.ofList (Percent.encode plain path.toList)) >>= root.below
  return (← (ofAddress a).toOption).path

/-- The target that a text names. Parameters that are given apart take the place of those in the
text. -/
def ofText (text : String) (params : Option Parameters) : Except TargetFault Target :=
  match Address.ofText? text >>= root.below with
  | none => .error .invalid
  | some a =>
    if params.all Parameters.fits then
      (ofAddress a).map fun t => { t with params := params.getD t.params }
    else .error .invalid

end Target

end SymbolSieve
