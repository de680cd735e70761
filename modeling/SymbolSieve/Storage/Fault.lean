import SymbolSieve.Json.Writer

/-!
# What can go wrong with storage

Storage fails for reasons of its own, which are reported and can be lived with. An access can also
be asked for something that no storage could do; that is a fault of the values, not of the storage.

## What is here

* `Barrier`, `DatabaseFault`, `Access`: the parts of a failure.
* `StorageError`: why storage could not be used, with its message.
* `AccessFault`: why an access has no result.
* `Damage`: why storage cannot be damaged, which is done to try how its users cope.
-/

set_option autoImplicit false

namespace SymbolSieve

/-- Why a directory cannot be made. -/
inductive Barrier where
  /-- A plain file stands where the directory should be. -/
  | fileExists (path : String)
  /-- A plain file stands where a directory above it should be. -/
  | notADirectory (path : String)
  deriving DecidableEq, Repr

/-- What can be wrong with a database, or with what it is given. -/
inductive DatabaseFault where
  | noTable
  | notADatabase
  | nullValue
  /-- The value at a place of a statement is of a kind that a database does not hold. -/
  | unheldKind (place : Nat) (kind : String)
  deriving DecidableEq, Repr

/-- The kinds of access to storage. -/
inductive Access where
  | read | write | delete
  deriving DecidableEq, Repr

/-- Why storage could not be used. -/
inductive StorageError where
  | unavailable
  | noDirectory (path : String) (barrier : Barrier)
  | cannotOpen (path : String) (fault : DatabaseFault)
  | failed (access : Access) (key : String) (fault : DatabaseFault)
  | corrupt (key : String)
  | notWritable (key : String) (obstacle : Json.Obstacle)
  deriving DecidableEq, Repr

/-- Why an access has no result: the storage could not be used, or it was asked for something that
cannot be done with the values at hand. -/
inductive AccessFault where
  | storage (e : StorageError)
  | value (fault : ValueFault)
  deriving DecidableEq, Repr

/-- Why storage cannot be damaged. -/
inductive Damage where
  /-- There is no database. -/
  | noDatabase
  /-- The database is nowhere to be opened. -/
  | unopened
  | noTable
  | notADatabase
  | noDirectory
  /-- A plain file stands where the directory of the database should be. -/
  | blockedDirectory
  deriving DecidableEq, Repr

/-! ## Words -/

/-- The words for a barrier. -/
def Barrier.message : Barrier → String
  | fileExists path => "[Errno 17] File exists: " ++ Text.quoted path
  | notADirectory path => "[Errno 20] Not a directory: " ++ Text.quoted path

/-- A text in single quotes. -/
def inQuotes (key : String) : String := "\x27" ++ key ++ "\x27"

/-- The words for a fault of a database. -/
def DatabaseFault.message : DatabaseFault → String
  | noTable => "no such table: kv_store"
  | notADatabase => "file is not a database"
  | nullValue => "NOT NULL constraint failed: kv_store.value"
  | unheldKind place kind =>
    "Error binding parameter " ++ Text.natText place ++ ": type " ++ inQuotes kind ++
      " is not supported"

/-- The verb for an access. -/
def Access.verb : Access → String
  | read => "read"
  | write => "write"
  | delete => "delete"

/-- The words for a failure. -/
def StorageError.message : StorageError → String
  | unavailable => "disk unavailable"
  | noDirectory path barrier => "Cannot open storage at " ++ path ++ ": " ++ barrier.message
  | cannotOpen path fault => "Cannot open storage at " ++ path ++ ": " ++ fault.message
  | failed access key fault =>
    "Failed to " ++ access.verb ++ " " ++ inQuotes key ++ ": " ++ fault.message
  | corrupt key => "Corrupt value under " ++ inQuotes key
  | notWritable key obstacle =>
    "Value for " ++ inQuotes key ++ " is not JSON serializable: " ++ obstacle.message

/-- The fault that a failure is which names a key; a key without a text is a fault of its own. -/
def AccessFault.naming (key : Value) (failure : String → StorageError) : AccessFault :=
  match key.shown with
  | .ok name => .storage (failure name)
  | .error fault => .value fault

@[simp] theorem AccessFault.naming_text (key : String) (failure : String → StorageError) :
    AccessFault.naming (.text key) failure = .storage (failure key) := rfl

end SymbolSieve
