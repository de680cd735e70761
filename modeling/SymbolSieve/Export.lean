import SymbolSieve.Clock
import SymbolSieve.Desk
import SymbolSieve.Path
import SymbolSieve.Selection
import SymbolSieve.Table.Symbols
import SymbolSieve.Text.Ends
import SymbolSieve.Value.Items

/-!
# Writing symbols to files

Symbol lists are written to files of one directory, as a table of comma-separated values or as a
JSON document with the time of the export and the name of the project. A file has a name that is
given, or one made from the project and the time. Tables are compressed if the name asks for it.

The directory is empty at first, and exports make no directories. A name may lead out of it, by way
of the directories above.

## What is here

* `Exporter`: the directory and the project.
* `place`: where the file with a name is written.
* `payload`, `documentText`: the JSON document of an export.
* `exportTable`, `exportDocument`, `exportSelected`: what is written, and under which name.
-/

set_option autoImplicit false

namespace SymbolSieve

/-- How symbols are written. -/
inductive ExportFormat where
  | table | document
  deriving DecidableEq, Repr

/-- The end of the names of files in a format. -/
def ExportFormat.extension : ExportFormat → String
  | table => "csv"
  | document => "json"

/-- Why an export gives no file. -/
inductive ExportFault where
  | value (fault : ValueFault)
  /-- There is no format of that name. -/
  | unsupported (format : String)
  /-- The directory for a table is not there. -/
  | noPlace
  /-- The name leads through a directory that does not exist. -/
  | noDirectory
  /-- The name leads through a file. -/
  | notDirectory
  /-- The name leads to a directory. -/
  | isDirectory
  /-- The name, or the path to it, has more bytes than it can have. -/
  | longName
  /-- There is no means for the compression that the name asks for. -/
  | noCompression
  deriving DecidableEq, Repr

/-- The words for a fault, where it has words of its own. -/
def ExportFault.message? : ExportFault → Option String
  | unsupported format => some ("Unsupported export format: " ++ format)
  | _ => none

/-- A file that was written. -/
structure ExportedFile where
  name : String
  /-- The text that is read from the file, unless it is compressed. -/
  text : Option String
  deriving DecidableEq, Repr

/-- A directory for exports, and the name of the project, which may be a value of any kind. -/
structure Exporter where
  directory : Path
  project : Value

namespace Exporter

/-- The name of the project when none is given. -/
def defaultProject : Value := .text "project"

/-- An exporter for a project; what does not count as present stands for the default one. -/
def ofProject (directory : Path) (project : Value) : Exporter :=
  { directory, project := project.orElse defaultProject }

/-! ## Names -/

/-- The name of a file when none is given. -/
def freshName (e : Exporter) (format : ExportFormat) (clock : Except ValueFault Int) :
    Except ValueFault String := do
  let time ← Clock.compactStamp (← clock)
  return "symbols_" ++ (← e.project.shown) ++ "_" ++ time ++ "." ++ format.extension

/-- The name that was asked for, or a fresh one. -/
def chosenName (e : Exporter) (format : ExportFormat) (given : Value)
    (clock : Except ValueFault Int) : Except ExportFault String :=
  if given.truthy then match given with
    | .text name => .ok name
    | _ => .error (.value .wrongKind)
  else (e.freshName format clock).mapError ExportFault.value

/-! ## Places -/

/-- What is at the end of a walk along some names, if all but the last one lead through directories.
The first two arguments are the directory of exports and the files that were written; the third one
holds the directory where the walk is. -/
def walk (directory : List String) (files : List (List String)) (here : List String) :
    List String → Except ExportFault (List String)
  | [] => .ok here
  | name :: rest =>
    let next := if name = ".." then here.dropLast else here ++ [name]
    if Path.nameLimit < name.utf8ByteSize then .error .longName
    else if rest.isEmpty || next.isPrefixOf directory then walk directory files next rest
    else .error (if files.contains next then .notDirectory else .noDirectory)

/-- Whether all directories on the way to the last of some names are there. -/
def hasPlace (directory : List String) (files : List (List String)) (names : List String) : Bool :=
  !names.dropLast.any Text.hasZero && match walk directory files directory names.dropLast with
    | .ok here => here.isPrefixOf directory
    | .error _ => false

/-- The path of the file with a name, and the names that lead to it, if it can be written. Tables
are only written where the directory is there; for a document that shows when it is written. -/
def place (e : Exporter) (files : List (List String)) (format : ExportFormat) (name : String) :
    Except ExportFault (Path × List String) := do
  let file := Path.ofText name
  let path := e.directory.join file
  let directory := e.directory.names
  if file.slashes ≠ 0 then throw (if format = .table then .noPlace else .noDirectory)
  if format = .table && !hasPlace directory files file.names then throw .noPlace
  if file.names.any Text.hasZero then throw (.value .malformed)
  if Path.lengthLimit < path.text.utf8ByteSize then throw .longName
  let found ← walk directory files directory file.names
  if found.isPrefixOf directory then throw .isDirectory
  return (path, found)

/-! ## Compression -/

/-- The ends of names that ask for compression. -/
def compressions : List String := [".gz", ".bz2", ".zip", ".xz"]

/-- Whether a name has an end, in any case. -/
def hasEnd (name ending : String) : Bool :=
  ending.toList.isSuffixOf (name.toList.map Char.toLower)

/-- The text of a table as it is read from its file; in a compressed file there is none to read. -/
def visibleText (name text : String) : Option String :=
  if compressions.any (hasEnd name) then none else some (Text.readBack text)

/-! ## Documents -/

/-- The document of an export: its time, the project, the number of symbols, and the symbols. -/
def payload (e : Exporter) (clock : Except ValueFault Int) (records : Value) :
    Except ValueFault Value := do
  let time ← Clock.stamp (← clock)
  let total ← records.size
  return .map [("exported_at", .text time), ("project", e.project), ("total", .int total),
    ("symbols", records)]

mutual

/-- A value in which objects are replaced by their texts. -/
def plain : Value → Except ValueFault Value
  | .object attributes => (Value.object attributes).shown.map .text
  | .list items => (plainItems items).map .list
  | .map entries => (plainEntries entries).map .map
  | v => .ok v

/-- The items of a list, with objects replaced. -/
def plainItems : List Value → Except ValueFault (List Value)
  | [] => .ok []
  | v :: rest => do return (← plain v) :: (← plainItems rest)

/-- The entries of a mapping, with objects replaced. -/
def plainEntries : List (String × Value) → Except ValueFault (List (String × Value))
  | [] => .ok []
  | (k, v) :: rest => do return (k, ← plain v) :: (← plainEntries rest)

end

/-- The text of a document. -/
def documentText (document : Value) : Except ValueFault String := do
  let document ← plain document
  match Json.obstacle? Json.depthLimit document with
  | some .tooDeep => .error .tooDeep
  | some _ => .error .tooManyDigits
  | none => .ok (Json.indented document)

/-! ## Exports -/

/-- Reports an export of some symbols to a path, and gives the file that was written. -/
def finish (path : Path) (found : List String) (count : Nat) (text : Option String) :
    StateM Desk ExportedFile := do
  modify fun d => { d with files := d.files ++ [found] }
  Desk.report .info "export" ("Exported " ++ Text.natText count ++ " symbols to " ++ path.text)
  return ⟨path.names.getLastD "", text⟩

/-- Writes records as a table. -/
def exportTable (e : Exporter) (records given : Value) :
    ExceptT ExportFault (StateM Desk) ExportedFile := do
  let d ← get
  let rows ← liftExcept ((records.items >>= SymbolTable.rows).mapError ExportFault.value)
  let name ← liftExcept (e.chosenName .table given d.clock)
  let (path, found) ← liftExcept (e.place d.files .table name)
  if hasEnd name ".zst" then throw .noCompression
  let text ← liftExcept ((SymbolTable.textOf rows).mapError ExportFault.value)
  finish path found rows.length (visibleText name text)

/-- Writes records as a document. -/
def exportDocument (e : Exporter) (records given : Value) :
    ExceptT ExportFault (StateM Desk) ExportedFile := do
  let d ← get
  let items ← liftExcept (records.items.mapError ExportFault.value)
  let name ← liftExcept (e.chosenName .document given d.clock)
  let document ← liftExcept ((e.payload d.clock (.list items)).mapError ExportFault.value)
  let text ← liftExcept ((documentText document).mapError ExportFault.value)
  let (path, found) ← liftExcept (e.place d.files .document name)
  finish path found items.length (some text)

/-- Writes the selected records in the format that was asked for. -/
def exportSelected (e : Exporter) (spec : Spec) (records format given : Value) :
    ExceptT ExportFault (StateM Desk) ExportedFile := do
  let chosen ← liftExcept ((Selection.select spec records).mapError ExportFault.value)
  match ← liftExcept (format.shown.mapError ExportFault.value) with
  | "csv" => e.exportTable (.list chosen) given
  | "json" => e.exportDocument (.list chosen) given
  | other => throw (.unsupported other)

end Exporter

end SymbolSieve
