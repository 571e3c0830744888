import RowFilter.Batch.Selection
import RowFilter.Filter.Explain
import RowFilter.Session
import RowFilter.Proofs.Filter.Composition
import RowFilter.Proofs.Grammar.Wire
import RowFilter.Proofs.Grammar.Positions
import RowFilter.Proofs.Plan.Memory
import RowFilter.Proofs.Plan.Scope
import RowFilter.Proofs.Filter.FailFast
import RowFilter.Proofs.Filter.Building
import RowFilter.Proofs.Filter.Uniform
import RowFilter.Proofs.Batch.Kept
import RowFilter.Proofs.Filter.Sequence
import RowFilter.Proofs.Batch.Faults
import RowFilter.Proofs.Filter.Faults
import RowFilter.Proofs.Filter.Hidden
import RowFilter.Proofs.Filter.Encoding
import RowFilter.Proofs.Filter.Projection
import RowFilter.Proofs.Filter.LetterCase
import RowFilter.Proofs.Filter.TextMatch
import RowFilter.Proofs.Filter.Timestamps
import RowFilter.Proofs.Filter.Widening
import RowFilter.Proofs.Text.Lowering
import RowFilter.Proofs.Session.History
import RowFilter.Proofs.Filter.Fractions
import RowFilter.Proofs.Filter.Decimals
import RowFilter.Proofs.Filter.Zones
import RowFilter.Proofs.Filter.Memberships
import RowFilter.Proofs.Filter.Nulls
import RowFilter.Proofs.Filter.Coherence
import RowFilter.Proofs.Filter.Renderings
import RowFilter.Proofs.Filter.Flatness
import RowFilter.Proofs.Filter.OperandShape
import RowFilter.Proofs.Filter.Resolution
import RowFilter.Proofs.Filter.Rereading
import RowFilter.Proofs.Calendar.Counting
import RowFilter.Proofs.Calendar.Internet
import RowFilter.Proofs.Calendar.Instants
import RowFilter.Proofs.Calendar.Formats
import RowFilter.Proofs.Calendar.Accepted
import RowFilter.Proofs.Calendar.Detection
