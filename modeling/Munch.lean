import Munch.Main
import Munch.Proofs.Grammar
import Munch.Proofs.LeadingTrivia
import Munch.Proofs.Boundaries
import Munch.Proofs.Pass
import Munch.Proofs.Spans
import Munch.Proofs.LongestMatch
import Munch.Proofs.Partition
import Munch.Proofs.Moves
import Munch.Proofs.Seams
import Munch.Proofs.Lines
import Munch.Proofs.Strictness
import Munch.Proofs.Calls
import Munch.Proofs.Positions
import Munch.Proofs.Loops
import Munch.Proofs.Termination
import Munch.Proofs.Spacing
import Munch.Proofs.Lookahead
import Munch.Proofs.Resynchronisation
import Munch.Proofs.Slices
import Munch.Proofs.Bookkeeping
import Munch.Proofs.LineEndings
import Munch.Proofs.WordTables
import Munch.Proofs.Relabelling
import Munch.Proofs.SingleItems
import Munch.Proofs.ClosingMarks
import Munch.Proofs.JsonForm
import Munch.Proofs.SettingsForm
import Munch.Proofs.QuotedReading
import Munch.Proofs.ValueReading
import Munch.Proofs.SettingsReading
import Munch.Proofs.SettingsLoading
import Munch.Proofs.Runs
import Munch.Proofs.JsonElements
import Munch.Proofs.JsonLayout
import Munch.Proofs.Tasks
import Munch.Proofs.LongestTrivia
import Munch.Proofs.NumberRegions
import Munch.Proofs.StringContents
import Munch.Proofs.Juxtaposition
import Munch.Proofs.Collecting
import Munch.Proofs.DirectReading
import Munch.Proofs.PlaceOrder
import Munch.Proofs.EditHistory
import Munch.Proofs.Reports
import Munch.Proofs.Listings
import Munch.Proofs.PrintedForms
import Munch.Proofs.BulkMoves
import Munch.Proofs.WordLists
