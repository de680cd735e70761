import SymbolSieve.Selection
import SymbolSieve.Sorting
import SymbolSieve.RecordIndex
import SymbolSieve.Engine.Debounce
import SymbolSieve.Backend.Client
import SymbolSieve.Export
import SymbolSieve.Log.Sink
import SymbolSieve.Service.Routes
import SymbolSieve.Service.Target
import SymbolSieve.Proofs.Presets.Faults
import SymbolSieve.Proofs.Presets.Refinement
import SymbolSieve.Proofs.Presets.Meaning
import SymbolSieve.Proofs.Engine.Reload
import SymbolSieve.Proofs.Engine.Saved
import SymbolSieve.Proofs.Engine.Kept
import SymbolSieve.Proofs.Engine.Announcements
import SymbolSieve.Proofs.Engine.Depth
import SymbolSieve.Proofs.Engine.Pauses
import SymbolSieve.Proofs.Presets.Acknowledged
import SymbolSieve.Glob.Expression
import SymbolSieve.Proofs.Glob.Expression
import SymbolSieve.Proofs.Glob.Pieces
import SymbolSieve.Proofs.Query.Given
import SymbolSieve.Proofs.Query.LastWord
import SymbolSieve.Proofs.Query.Overlong
import SymbolSieve.Proofs.Query.Spelling
import SymbolSieve.Proofs.Selection.Independence
import SymbolSieve.Proofs.Storage.Shared
import SymbolSieve.Proofs.Service.Symbols
import SymbolSieve.Proofs.Table.Rows
import SymbolSieve.Proofs.Glob.Closed
import SymbolSieve.Proofs.Glob.Doubled
import SymbolSieve.Proofs.Glob.Literal
import SymbolSieve.Proofs.Selection.Search
import SymbolSieve.Proofs.Selection.States
import SymbolSieve.Proofs.Sorting.Selected
import SymbolSieve.Proofs.Sorting.Numbers
import SymbolSieve.Proofs.Storage.Paths
import SymbolSieve.Proofs.Engine.Reopened
import SymbolSieve.Proofs.RecordIndex.Replaced
import SymbolSieve.Proofs.Engine.Chips
import SymbolSieve.Proofs.Engine.Activity
import SymbolSieve.Proofs.Engine.Subscriptions
import SymbolSieve.Proofs.Engine.Overriding
import SymbolSieve.Proofs.Backend.Files
