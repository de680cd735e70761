import SymbolSieve.Number.Reading
import SymbolSieve.Path
import SymbolSieve.Text.Ends
import SymbolSieve.Value.Basic
import SymbolSieve.Vocabulary

/-!
# Configuration

The settings of the library come from variables of its environment. A variable that is not set has a
default.

## What is here

* `Environment`: variables with their values, and `Environment.ofEntries`.
* `Configuration`, `Configuration.ofEnvironment`: the settings.
* `directories`: the directories that the settings need.
-/

set_option autoImplicit false

namespace SymbolSieve

/-- Variables with their values. -/
abbrev Environment := Assoc String String

/-- The value of a variable, or a default. -/
def Environment.valueOr (env : Environment) (name default : String) : String :=
  (Assoc.get? name env).getD default

/-- Why variables cannot be set. -/
inductive EnvironmentFault where
  | value (fault : ValueFault)
  /-- A variable has no name. -/
  | unnamed
  deriving DecidableEq, Repr

namespace Environment

/-- One variable. Its value is a text, and neither the name nor the value may have characters that
separate variables. -/
def variableOf (e : String × Value) : Except EnvironmentFault (String × String) :=
  match e.2 with
  | .text value =>
    if Text.hasZero e.1 || Text.hasZero value || e.1.toList.contains '=' then
      .error (.value .malformed)
    else if e.1.isEmpty then .error .unnamed
    else .ok (e.1, value)
  | _ => .error (.value .wrongKind)

/-- The variables that some entries give. -/
def ofEntries (es : Entries) : Except EnvironmentFault Environment := es.mapM variableOf

end Environment

/-- The settings of the library. -/
structure Configuration where
  storagePath : Path
  backendUrl : String
  /-- The time in seconds after which a request is given up. -/
  timeout : Binary64
  attempts : Int
  /-- The pause in milliseconds after which a typed query is applied. -/
  pause : Int
  name : String
  version : String
  logLevel : String
  project : String
  exportsPath : Path

namespace Configuration

/-- The directory for data in the directory of the project. -/
def dataPath (root : Path) : Path := root.join (Path.ofText "data")

/-- The place of the storage when none is given. -/
def defaultStorage (root : Path) : Path := (dataPath root).join (Path.ofText "greppy_state.db")

/-- The fault for a text that is no number. -/
def asFault {α : Type} : Except NumberFault α → Except ValueFault α
  | .ok x => .ok x
  | .error .malformed => .error .malformed
  | .error (.tooManyDigits _) => .error .tooManyDigits

/-- The settings of an environment, for a project in a directory. -/
def ofEnvironment (root : Path) (env : Environment) : Except ValueFault Configuration := do
  let timeout ← asFault (Number.readFloat (env.valueOr "GREPPY_BACKEND_TIMEOUT" "10"))
  let attempts ← asFault (Number.readInt (env.valueOr "GREPPY_BACKEND_RETRIES" "3"))
  let pause ← asFault (Number.readInt (env.valueOr "GREPPY_SEARCH_DEBOUNCE_MS" "300"))
  return {
    storagePath := Path.ofText (env.valueOr "GREPPY_STORAGE_PATH" (defaultStorage root).text)
    backendUrl := env.valueOr "GREPPY_BACKEND_URL" "http://127.0.0.1:7878"
    timeout, attempts, pause
    name := env.valueOr "APP_NAME" "Greppy Filters"
    version := env.valueOr "APP_VERSION" "1.0.0"
    logLevel := env.valueOr "LOG_LEVEL" "INFO"
    project := env.valueOr "GREPPY_PROJECT" "project"
    exportsPath := Path.ofText
      (env.valueOr "GREPPY_EXPORTS_PATH" ((dataPath root).join (Path.ofText "exports")).text) }

/-- The pause in seconds. -/
def pauseSeconds (c : Configuration) : Except ValueFault Binary64 :=
  match Binary64.ofInt? c.pause with
  | some x => .ok (x.div (Binary64.ofRatio false 1000 1))
  | none => .error .outOfRange

/-- The directories that the settings need: the one of the storage and the one of exports. -/
def directories (c : Configuration) : List Path := [c.storagePath.parent, c.exportsPath]

/-- The directories below a place that exist once the needed directories have been made, unless one
of them has too long a path. -/
def madeBelow (c : Configuration) (place : Path) : Option (List Path) :=
  if c.directories.any Path.isTooLong then none
  else some (c.directories.flatMap (Path.trail place))

end Configuration

end SymbolSieve
