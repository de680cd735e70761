import SymbolSieve.Configuration
import SymbolSieve.Form.Scalar
import SymbolSieve.Form.Shape
import SymbolSieve.Json.Reader
import SymbolSieve.Path
import SymbolSieve.Text.Blank
import SymbolSieve.Text.Case
import SymbolSieve.Text.Split

/-!
# Settings of the service

The service has settings of its own, from variables whose names may be written in any case. The
values are checked, and all faults are reported.

## What is here

* `originsOf`: the origins that a text lists.
* `ServiceSettings`, `ServiceSettings.ofEnvironment`: the settings.
-/

set_option autoImplicit false

namespace SymbolSieve

/-- The origins of requests that are allowed when none are given. -/
def defaultOrigins : List String :=
  ["http://localhost:3000", "http://localhost:5173", "http://127.0.0.1:7878"]

/-- The origins that a text lists, separated by commas; an empty text stands for the default. -/
def originsOf (listed : String) : List String :=
  if listed.isEmpty then defaultOrigins else (Text.split ',' listed).map Text.trim

/-- The origins of an environment. -/
def Environment.origins (env : Environment) : List String :=
  originsOf (env.valueOr "GREPPY_CORS_ORIGINS" "")

/-- Why there are no settings. -/
inductive SettingsFault where
  /-- A variable that holds a list is not JSON. -/
  | unreadable (name : String)
  /-- A variable that holds a list is nested too deeply. -/
  | tooDeep
  | rejected (complaints : List Complaint)

/-- The settings of the service. -/
structure ServiceSettings where
  appName : String := "Greppy Filters API"
  version : String := "1.0.0"
  debug : Bool := false
  storagePath : Path
  origins : List String := defaultOrigins
  /-- The greatest number of records in a request. -/
  maxRecords : Int := 50000
  host : String := "127.0.0.1"
  portNumber : Int := 8000
  deriving DecidableEq, Repr

namespace ServiceSettings

/-- The variables of the service under the names of their fields; of variables whose names differ
only in case the last one counts. -/
def fieldsOf (env : Environment) : Entries :=
  let marker := "greppy_"
  Assoc.ofPairs (env.filterMap fun e =>
    let name := Text.lower e.1
    if marker.toList.isPrefixOf name.toList then
      some (String.ofList (name.toList.drop marker.length), Value.text e.2)
    else none)

/-- The variables, with the list of origins read as JSON if there is one. A null counts as no list.
-/
def readable (fields : Entries) : Except SettingsFault Entries :=
  let name := "allowed_origins"
  match Assoc.get? name fields with
  | some (.text s) => match Json.decode s with
    | .ok .null => .ok (Assoc.erase name fields)
    | .ok v => .ok (Assoc.put name v fields)
    | .error .tooDeep => .error .tooDeep
    | .error _ => .error (.unreadable name)
  | _ => .ok fields

/-- The settings that some fields give. -/
def ofFields (root : Path) (origins : List String) (fields : Entries) : Checked ServiceSettings :=
  let text (name default : String) := Form.withDefault name default Form.text fields
  let names := Checked.both (text "app_name" "Greppy Filters API") (text "version" "1.0.0")
  let debug := Form.withDefault "debug" false Form.truth fields
  let storage := text "storage_path" (Configuration.defaultStorage root).text
  let origins := Form.withDefault "allowed_origins" origins (Form.list Form.text) fields
  let maxRecords := Form.withDefault "max_filter_records" 50000 Form.integer fields
  let host := text "host" "127.0.0.1"
  let portNumber := Form.withDefault "port" 8000 Form.integer fields
  (Checked.both names (Checked.both debug (Checked.both storage
    (Checked.both origins (Checked.both maxRecords (Checked.both host portNumber)))))).map
    fun ((appName, version), debug, storage, origins, maxRecords, host, portNumber) =>
      { appName, version, debug, storagePath := Path.ofText storage, origins, maxRecords, host,
        portNumber }

/-- The settings of an environment, for a project in a directory. -/
def ofEnvironment (root : Path) (env : Environment) : Except SettingsFault ServiceSettings := do
  (ofFields root env.origins (← readable (fieldsOf env))).mapError SettingsFault.rejected

end ServiceSettings

end SymbolSieve
