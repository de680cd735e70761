import SymbolSieve.Json.Reader
import SymbolSieve.Number.Rounded
import SymbolSieve.Number.Words
import SymbolSieve.Storage.Fault
import SymbolSieve.Value.Order

/-!
# Key-value storage

Raw texts are kept under keys, in memory or in one table of a database file. Either may fail. Memory
fails by a plan that is given in advance, so that every pattern of failures can be described; a
database fails when its directory cannot be made, its table is gone, or its file is no database.

Memory keeps any value as it is. A database holds texts only, and writes numbers down.

## What is here

* `Faults`: which of the coming accesses to memory fail.
* `Memory`, `Database`, `Storage`: what is stored. A database is used through handles; a handle
  makes sure that the table exists the first time it is used, and never again.
* `getItem`, `setItem`, `removeItem`: access to raw values.
* `getJson`, `setJson`: access to values as JSON text.
* `dropTable`, `overwrite`, `plan`: storage that is damaged, or about to fail.
-/

set_option autoImplicit false

namespace SymbolSieve

/-! ## Stored things -/

/-- Which of the coming accesses fail: the `n`-th read or write from now on. -/
structure Faults where
  reads : Nat → Bool := fun _ => false
  writes : Nat → Bool := fun _ => false

/-- Storage in memory. -/
structure Memory where
  items : Assoc Value Value := []
  faults : Faults := {}

/-- What a database file holds. -/
inductive DatabaseFile where
  | absent
  | table (rows : Assoc String String)
  | noTable
  | garbage
  deriving DecidableEq, Repr

/-- A database file, and whether each handle on it has been used. -/
structure Database where
  path : String
  barrier : Option Barrier := none
  file : DatabaseFile := .absent
  used : List Bool := []

/-- A place where texts are stored. -/
inductive Storage where
  | memory (m : Memory)
  | database (d : Database)

/-- A number that stands for one opening of the storage. -/
abbrev Handle := Nat

namespace Storage

/-- What an access gives, together with the storage after it. -/
abbrev Result (α : Type) := Except AccessFault α × Storage

/-! ## Memory -/

/-- An access to what is under a key. Nothing can be under a list, a mapping or an object. -/
def underKey {α : Type} (key : Value) (x : α) : Except AccessFault α :=
  if key.isKey then .ok x else .error (.value .wrongKind)

/-- Memory after a read. -/
def Memory.afterRead (m : Memory) : Memory :=
  { m with faults := { m.faults with reads := fun n => m.faults.reads (n + 1) } }

/-- Memory after a write. -/
def Memory.afterWrite (m : Memory) : Memory :=
  { m with faults := { m.faults with writes := fun n => m.faults.writes (n + 1) } }

/-! ## Databases -/

/-- A database about to be used through a handle: its directory is there, and so is its table if
this is the first use of the handle. -/
def connect (h : Handle) (d : Database) : Except StorageError Database :=
  match d.barrier with
  | some b => .error (.noDirectory d.path b)
  | none =>
    if d.used[h]?.getD false then .ok d
    else match d.file with
      | .garbage => .error (.cannotOpen d.path .notADatabase)
      | .absent | .noTable => .ok { d with file := .table [], used := d.used.set h true }
      | .table _ => .ok { d with used := d.used.set h true }

/-- Why an action on a table fails. -/
inductive TableFault where
  | database (fault : DatabaseFault)
  | value (fault : ValueFault)
  deriving DecidableEq, Repr

/-- Numbers are written down with fifteen digits, and with a point even before an exponent. -/
def cellStyle : Binary64.DecimalStyle := ⟨15, true⟩

/-- What a table holds of the value at a place of a statement: a text, or nothing. An integer has to
be of 64 bits. -/
def cell (place : Nat) : Value → Except TableFault (Option String)
  | .null | .float .nan => .ok none
  | .bool b => .ok (some (Text.natText b.toNat))
  | .int n =>
    if Number.fitsSigned n then .ok (some (Text.intText n))
    else .error (.value .outOfRange)
  | .float x => .ok (some (x.roundedText cellStyle 15))
  | .text s => .ok (some s)
  | .object _ => .error (.database (.unheldKind place "types.SimpleNamespace"))
  | v => .error (.database (.unheldKind place v.kindName))

/-- An access to the table of a database. -/
def onTable {α : Type} (h : Handle) (access : Access) (key : Value)
    (action : Assoc String String → Except TableFault (α × Assoc String String)) (d : Database) :
    Result α :=
  match connect h d with
  | .error e => (.error (.storage e), .database d)
  | .ok d =>
    let outcome := match d.file with
      | .table rows => action rows
      | .garbage => .error (.database .notADatabase)
      | .absent | .noTable => .error (.database .noTable)
    match outcome with
    | .ok (x, rows) => (.ok x, .database { d with file := .table rows })
    | .error (.database fault) => (.error (.naming key (.failed access · fault)), .database d)
    | .error (.value fault) => (.error (.value fault), .database d)

/-- The value in a row of a table; nothing is found under null. -/
def findRow (key : Value) (rows : Assoc String String) :
    Except TableFault (Value × Assoc String String) := do
  let found := (← cell 1 key).bind (Assoc.get? · rows)
  return ((found.map Value.text).getD .null, rows)

/-- A table with a value in a row. A row under null is never found again, so it is not kept. -/
def putRow (key value : Value) (rows : Assoc String String) :
    Except TableFault (Unit × Assoc String String) := do
  match ← cell 1 key, ← cell 2 value with
  | _, none => throw (.database .nullValue)
  | none, some _ => return ((), rows)
  | some k, some text => return ((), Assoc.put k text rows)

/-- A table without a row. -/
def eraseRow (key : Value) (rows : Assoc String String) :
    Except TableFault (Unit × Assoc String String) := do
  match ← cell 1 key with
  | none => return ((), rows)
  | some k => return ((), Assoc.erase k rows)

/-! ## Raw values -/

/-- The value under a key, or null. -/
def getItem (h : Handle) (key : Value) : Storage → Result Value
  | .memory m =>
    (if m.faults.reads 0 then .error (.storage .unavailable)
      else underKey key ((Assoc.get? key m.items).getD .null), .memory (Memory.afterRead m))
  | .database d => onTable h .read key (findRow key) d

/-- Stores a value under a key. A database refuses a null. -/
def setItem (h : Handle) (key value : Value) : Storage → Result Unit
  | .memory m =>
    let after := Memory.afterWrite m
    if m.faults.writes 0 then (.error (.storage .unavailable), .memory after)
    else match underKey key (Assoc.put key value m.items) with
      | .ok items => (.ok (), .memory { after with items })
      | .error fault => (.error fault, .memory after)
  | .database d => onTable h .write key (putRow key value) d

/-- Takes a key away, if it is there. Memory does not fail at this, and where it is empty it does
not look at the key. -/
def removeItem (h : Handle) (key : Value) : Storage → Result Unit
  | .memory m =>
    if m.items.isEmpty then (.ok (), .memory m)
    else match underKey key (Assoc.erase key m.items) with
      | .ok items => (.ok (), .memory { m with items })
      | .error fault => (.error fault, .memory m)
  | .database d => onTable h .delete key (eraseRow key) d

/-! ## Values -/

/-- The value of a raw value under a key. What is no JSON text is corrupt, and one that is nested
too deeply cannot be read. -/
def ofRaw (key raw : Value) : Except AccessFault Value :=
  match raw with
  | .null => .ok .null
  | .text text => match Json.decode text with
    | .ok v => .ok v
    | .error .tooDeep => .error (.value .tooDeep)
    | .error _ => .error (.naming key .corrupt)
  | _ => .error (.naming key .corrupt)

/-- The value under a key; what is absent is null. -/
def getJson (h : Handle) (key : Value) (s : Storage) : Result Value :=
  match getItem h key s with
  | (.ok raw, s) => (ofRaw key raw, s)
  | (.error fault, s) => (.error fault, s)

/-- Stores a value under a key. -/
def setJson (h : Handle) (key v : Value) (s : Storage) : Result Unit :=
  match Json.encode v with
  | .ok text => setItem h key (.text text) s
  | .error .tooDeep => (.error (.value .tooDeep), s)
  | .error o => (.error (.naming key (.notWritable · o)), s)

/-! ## Opening -/

/-- A new handle on the storage. Memory has no handles of its own. -/
def openHandle : Storage → Handle × Storage
  | .memory m => (0, .memory m)
  | .database d => (d.used.length, .database { d with used := d.used ++ [false] })

/-- The number of keys, which only memory knows. -/
def size? : Storage → Option Nat
  | .memory m => some m.items.length
  | .database _ => none

/-! ## Damage -/

/-- Drops the table of a database. -/
def dropTable : Storage → Except Damage Storage
  | .memory _ => .error .noDatabase
  | .database d =>
    if d.barrier.isSome then .error .unopened
    else match d.file with
      | .absent => .error .unopened
      | .noTable => .error .noTable
      | .garbage => .error .notADatabase
      | .table _ => .ok (.database { d with file := .noTable })

/-- Writes something that is no database over a database file. -/
def overwrite : Storage → Except Damage Storage
  | .memory _ => .error .noDatabase
  | .database d =>
    if d.barrier.isSome then .error .blockedDirectory
    else match d.file with
      | .absent => .error .noDirectory
      | _ => .ok (.database { d with file := .garbage })

/-- Memory with another plan of failures. -/
def plan (faults : Faults) : Storage → Storage
  | .memory m => .memory { m with faults }
  | s => s

end Storage

end SymbolSieve
