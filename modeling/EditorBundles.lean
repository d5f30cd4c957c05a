import EditorBundles.Catalog.Export
import EditorBundles.Catalog.Snippets
import EditorBundles.Catalog.Themes
import EditorBundles.Proofs.PropertyList.Forest
import EditorBundles.Proofs.PropertyList.Edits
import EditorBundles.Proofs.PropertyList.Refinement
import EditorBundles.Proofs.PropertyList.Import
import EditorBundles.Proofs.PropertyList.Invariant
import EditorBundles.Proofs.Xml.Entity
import EditorBundles.Proofs.Xml.Token
import EditorBundles.Proofs.PropertyList.Printed
import EditorBundles.Proofs.PropertyList.RoundTrip
import EditorBundles.Proofs.PropertyList.Grammar
import EditorBundles.Proofs.PropertyList.Parsing
import EditorBundles.Proofs.PropertyList.Importing
import EditorBundles.Proofs.PropertyList.Refusals
import EditorBundles.Proofs.Snippet.Nesting
import EditorBundles.Proofs.Snippet.Buffer
import EditorBundles.Proofs.Snippet.Resize
import EditorBundles.Proofs.Snippet.Refresh
import EditorBundles.Proofs.Snippet.Expansion
import EditorBundles.Proofs.Snippet.Editing
import EditorBundles.Proofs.Snippet.Following
import EditorBundles.Proofs.Catalog.Held
import EditorBundles.Proofs.Catalog.Keeping
import EditorBundles.Proofs.Catalog.BundleKeeping
import EditorBundles.Proofs.Catalog.SyncKeeping
import EditorBundles.Proofs.Catalog.TableRuns
import EditorBundles.Proofs.Catalog.Precedence
import EditorBundles.Proofs.Catalog.ScanKeeping
import EditorBundles.Proofs.Catalog.BundleOperations
import EditorBundles.Proofs.Catalog.Operations
import EditorBundles.Proofs.Catalog.CatalogRuns
import EditorBundles.Proofs.Catalog.FreeNames
import EditorBundles.Proofs.Catalog.OwnNames
import EditorBundles.Proofs.Catalog.Moves
import EditorBundles.Proofs.Catalog.RegularScans
import EditorBundles.Proofs.Catalog.OperationMoves
import EditorBundles.Proofs.Catalog.Carrying
import EditorBundles.Proofs.Catalog.Isolation
import EditorBundles.Proofs.Catalog.Unsaved
import EditorBundles.Proofs.Catalog.Rescans
import EditorBundles.Proofs.Catalog.Localities
import EditorBundles.Proofs.Catalog.SnapshotRuns
import EditorBundles.Proofs.Catalog.NamesApart
import EditorBundles.Proofs.Catalog.Families
import EditorBundles.Proofs.Catalog.NamedRuns
import EditorBundles.Proofs.Catalog.RowChanges
import EditorBundles.Proofs.Catalog.HiddenRows
import EditorBundles.Proofs.Catalog.Directories
import EditorBundles.Proofs.Catalog.BundleAddresses
import EditorBundles.Proofs.Catalog.Remaining
import EditorBundles.Proofs.Catalog.Chronicles
import EditorBundles.Proofs.Catalog.CachedNames
import EditorBundles.Proofs.Catalog.ConcealedRows
import EditorBundles.Proofs.Catalog.ConcealedBundles
import EditorBundles.Proofs.Catalog.Concealment
import EditorBundles.Proofs.Snippet.EndMarker
import EditorBundles.Proofs.Snippet.EngineCalls
import EditorBundles.Proofs.Catalog.Outcomes
import EditorBundles.Proofs.Catalog.Failures
import EditorBundles.Proofs.Catalog.DirtyFlag
import EditorBundles.Proofs.FileSystem.Frames
import EditorBundles.Proofs.Catalog.PlainNames
import EditorBundles.Proofs.Catalog.ScanFrames
import EditorBundles.Proofs.Catalog.OperationFrames
import EditorBundles.Proofs.Catalog.ShippedFiles
import EditorBundles.Proofs.PropertyList.TableHistory
import EditorBundles.Proofs.Snippet.TemplatePrinting
import EditorBundles.Proofs.Catalog.ItemAddresses
import EditorBundles.Proofs.Snippet.Reshaping
import EditorBundles.Proofs.Snippet.Outline
import EditorBundles.Proofs.Snippet.TemplateOutline
import EditorBundles.Proofs.Snippet.MarkerPlace
import EditorBundles.Proofs.FileSystem.Replacing
import EditorBundles.Proofs.PropertyList.Saving
import EditorBundles.Proofs.Snippet.Cursor
import EditorBundles.Proofs.Snippet.FormatMeaning
import EditorBundles.Proofs.Snippet.StopNumbers
import EditorBundles.Proofs.Snippet.Tabbing
import EditorBundles.Proofs.Snippet.CommandEnvironment
import EditorBundles.Proofs.Snippet.Piping
import EditorBundles.Proofs.Snippet.Placeholders
import EditorBundles.Proofs.Snippet.IdleTransforms
import EditorBundles.Proofs.Snippet.Replacements
import EditorBundles.Proofs.Snippet.Indentation
import EditorBundles.Proofs.Snippet.ExpandedParts
import EditorBundles.Proofs.Snippet.FirstWrites
import EditorBundles.Proofs.Snippet.Starting
import EditorBundles.Proofs.FileSystem.Contents
import EditorBundles.Proofs.FileSystem.Copying
import EditorBundles.Proofs.Catalog.ExportedItems
import EditorBundles.Proofs.Catalog.Exports
import EditorBundles.Proofs.Catalog.StableRows
import EditorBundles.Proofs.Catalog.ItemTables
import EditorBundles.Proofs.Catalog.EntryFlags
import EditorBundles.Proofs.Catalog.SteadyRows
import EditorBundles.Proofs.Catalog.RestoredBundles
import EditorBundles.Proofs.Catalog.ScanRows
import EditorBundles.Proofs.Catalog.UnreadableFiles
import EditorBundles.Proofs.Catalog.RepeatedScans
import EditorBundles.Proofs.Catalog.NameSearch
import EditorBundles.Proofs.Snippet.Selections
import EditorBundles.Proofs.Catalog.Deletions
import EditorBundles.Proofs.Catalog.TablePairs
import EditorBundles.Proofs.Catalog.PassSteps
import EditorBundles.Proofs.Catalog.LaterItems
import EditorBundles.Proofs.Catalog.PassCourses
import EditorBundles.Proofs.Catalog.CalmBundles
import EditorBundles.Proofs.Catalog.LanguagePasses
import EditorBundles.Proofs.Catalog.PhasedScans
