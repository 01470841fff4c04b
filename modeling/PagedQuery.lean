import PagedQuery.Session
import PagedQuery.Proofs.Engine.Coherence
import PagedQuery.Proofs.Engine.CountColumn
import PagedQuery.Proofs.Engine.Counting
import PagedQuery.Proofs.Engine.Creation
import PagedQuery.Proofs.Engine.PageRange
import PagedQuery.Proofs.Engine.Paging
import PagedQuery.Proofs.Engine.PrimaryId
import PagedQuery.Proofs.Engine.Turning
import PagedQuery.Proofs.Json.Contents
import PagedQuery.Proofs.Json.Nesting
import PagedQuery.Proofs.Number.Numerals
import PagedQuery.Proofs.Query.Acceptance
import PagedQuery.Proofs.Query.FirstFault
import PagedQuery.Proofs.Query.Meaning
import PagedQuery.Proofs.Query.Respelling
import PagedQuery.Proofs.Query.Wire
import PagedQuery.Proofs.Sql.Checking
import PagedQuery.Proofs.Sql.Clauses
import PagedQuery.Proofs.Sql.Count
import PagedQuery.Proofs.Sql.Filtering
import PagedQuery.Proofs.Sql.Rendering
import PagedQuery.Proofs.Sql.Scope
import PagedQuery.Proofs.Sql.Spacing
import PagedQuery.Proofs.Sql.UniqueReading
import PagedQuery.Proofs.Text.Digits
import PagedQuery.Proofs.Text.WholeNumerals
import PagedQuery.Proofs.Transport.Connection
import PagedQuery.Proofs.Transport.Course
import PagedQuery.Proofs.Transport.Decoding
import PagedQuery.Proofs.Transport.Delivery
import PagedQuery.Proofs.Transport.Drivers
import PagedQuery.Proofs.Transport.Reporting
import PagedQuery.Proofs.Transport.Throttling
