import StoreQuery.Recorder
import StoreQuery.Session
import StoreQuery.Value.Display
import StoreQuery.Proofs.Clause.RoundTrip
import StoreQuery.Proofs.Session.Memory
import StoreQuery.Proofs.Parameters.Capture
import StoreQuery.Proofs.Clause.Replacing
import StoreQuery.Proofs.Parameters.Replacing
import StoreQuery.Proofs.Clause.Arithmetic
import StoreQuery.Proofs.Clause.Refusals
import StoreQuery.Proofs.Parameters.Families
import StoreQuery.Proofs.Parameters.Plannable
import StoreQuery.Proofs.Config.Obtainable
import StoreQuery.Proofs.Parameters.Declaration
import StoreQuery.Proofs.Session.Recorded
import StoreQuery.Proofs.Session.Handles
import StoreQuery.Proofs.Parameters.Collisions
import StoreQuery.Proofs.Session.Counting
import StoreQuery.Proofs.Session.Paging
import StoreQuery.Proofs.Parameters.History
import StoreQuery.Proofs.Session.Grouping
import StoreQuery.Proofs.Clause.Lookups
import StoreQuery.Proofs.Recorder.Isolation
import StoreQuery.Proofs.Template.SourceForm
import StoreQuery.Proofs.Config.Overrides
import StoreQuery.Proofs.Config.Loading
import StoreQuery.Proofs.Session.Outputs
import StoreQuery.Proofs.Session.Columns
import StoreQuery.Proofs.Parameters.StandIns
import StoreQuery.Proofs.Clause.Borders
import StoreQuery.Proofs.Clause.PathTexts
import StoreQuery.Proofs.Parameters.Renaming
import StoreQuery.Proofs.Session.Declared
import StoreQuery.Proofs.Session.Windowing
import StoreQuery.Proofs.Value.TaggedForm
import StoreQuery.Proofs.Parameters.Drawing
import StoreQuery.Proofs.Parameters.Overlaps
import StoreQuery.Proofs.Clause.InPlace
