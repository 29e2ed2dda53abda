import Docket.Codes
import Docket.Codes.Json
import Docket.Conversion.Copier
import Docket.Conversion.Registry
import Docket.Criteria.Basic
import Docket.Criteria.Expression
import Docket.Criteria.Operator
import Docket.Criteria.QueryField
import Docket.Exchange.Conversion
import Docket.Exchange.Criteria
import Docket.Exchange.Failures
import Docket.Exchange.Reading
import Docket.Exchange.Refusal
import Docket.Exchange.Session
import Docket.Exchange.Storage
import Docket.Failure
import Docket.Json.Basic
import Docket.Json.Parser
import Docket.Json.Printer
import Docket.Logging.Entry
import Docket.Logging.Filter
import Docket.Logging.Subscriber
import Docket.Number.Double
import Docket.Number.Shortest
import Docket.Paging
import Docket.Paging.Json
import Docket.Pattern.Basic
import Docket.Pattern.CharSet
import Docket.Pattern.Fault
import Docket.Pattern.Parser
import Docket.Pattern.Property
import Docket.Persistence.Access
import Docket.Persistence.Repository
import Docket.Persistence.Service
import Docket.Persistence.World
import Docket.Proofs.Criteria.Comparison
import Docket.Proofs.Criteria.Equality
import Docket.Proofs.Criteria.Meaning
import Docket.Proofs.Criteria.Printed
import Docket.Proofs.Json.Document
import Docket.Proofs.Json.Sameness
import Docket.Proofs.Persistence.Encoding
import Docket.Proofs.Persistence.Ensures
import Docket.Proofs.Persistence.Permanence
import Docket.Proofs.Persistence.Removal
import Docket.Proofs.Persistence.Running
import Docket.Proofs.Store.Attempts
import Docket.Proofs.Store.Collisions
import Docket.Proofs.Store.Contents
import Docket.Proofs.Store.Continuity
import Docket.Proofs.Store.Integrity
import Docket.Proofs.Store.Locality
import Docket.Proofs.Store.Matching
import Docket.Proofs.Store.Passes
import Docket.Proofs.Store.Targeted
import Docket.Proofs.Store.Updates
import Docket.Proofs.Text.Words
import Docket.Record.Basic
import Docket.Record.Codec
import Docket.Record.FieldKind
import Docket.RecordId
import Docket.Settings.Config
import Docket.Settings.Environment
import Docket.Settings.Loading
import Docket.Settings.Toml.Reader
import Docket.Settings.Toml.Scalar
import Docket.Settings.Toml.Tree
import Docket.Specimen.Models
import Docket.Specimen.Notes
import Docket.Specimen.Records
import Docket.Specimen.Types
import Docket.Store.Backend
import Docket.Store.Basic
import Docket.Store.Collection
import Docket.Store.Filter
import Docket.Store.Memory
import Docket.Store.Ordering
import Docket.Store.Watched
import Docket.Text.Alphabetic
import Docket.Text.Blank
import Docket.Text.Category
import Docket.Text.Category.Table
import Docket.Text.Cut
import Docket.Text.Digits
import Docket.Text.LetterCase
import Docket.Text.LetterCase.Table
import Docket.Text.Quoted
import Docket.Text.Script
import Docket.Time.Calendar
import Docket.Time.Instant
import Docket.Time.Rfc3339
import Docket.Time.UnixTime
import Docket.Vocabulary
import Docket.Proofs.Persistence.Overwriting
import Docket.Proofs.Text.Digits
import Docket.Proofs.Time.Calendar
import Docket.Proofs.Time.Timestamps
import Docket.Proofs.Conversion.Copying
import Docket.Proofs.Record.Survival
import Docket.Proofs.Persistence.Pairing
import Docket.Proofs.Persistence.Finding
import Docket.Proofs.Persistence.Forms
import Docket.Proofs.Persistence.History
import Docket.Proofs.Persistence.RoundTrip
import Docket.Proofs.Criteria.Layout
import Docket.Proofs.Criteria.Tagged
import Docket.Proofs.Criteria.Agreement
import Docket.Proofs.Criteria.Isolation
import Docket.Proofs.Time.Order
import Docket.Proofs.Store.Sorting
import Docket.Proofs.Store.Reads
import Docket.Proofs.Persistence.Pages
import Docket.Proofs.Persistence.Isolation
import Docket.Proofs.RecordId
import Docket.Proofs.Record.Fidelity
import Docket.Proofs.Conversion.BestEffort
import Docket.Proofs.Conversion.ThereAndBack
import Docket.Proofs.Number.Integers
import Docket.Proofs.Store.Uniqueness
import Docket.Proofs.Persistence.StoredRows
import Docket.Proofs.Persistence.Schema
import Docket.Proofs.Persistence.Soundness
import Docket.Proofs.Persistence.Readability
import Docket.Proofs.Text.Kept
import Docket.Proofs.Criteria.Arguments
import Docket.Proofs.Persistence.PageWalks
import Docket.Proofs.Persistence.Existence
import Docket.Proofs.Conversion.Unreached
import Docket.Proofs.Persistence.StoredColumns
import Docket.Proofs.Persistence.SavedBack
import Docket.Proofs.Store.Separation
import Docket.Proofs.Store.IndexNames
import Docket.Proofs.Store.Enforcement
import Docket.Proofs.Json.Beginnings
import Docket.Proofs.Store.Ranking
import Docket.Proofs.Conversion.Fieldwise
import Docket.Proofs.Conversion.Policies
import Docket.Proofs.Store.Insertions
import Docket.Proofs.Number.Rounding
import Docket.Proofs.Store.IntegerFields
import Docket.Proofs.Time.TextOrder
import Docket.Proofs.Store.StoredTimes
import Docket.Proofs.Conversion.Times
import Docket.Proofs.Text.DigitOrder
import Docket.Proofs.Store.FailedOperations
import Docket.Proofs.Criteria.Translation
import Docket.Proofs.Conversion.Untouched
import Docket.Proofs.Codes
import Docket.Proofs.Criteria.Placeholders
