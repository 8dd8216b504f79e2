import RecordGateway.Broker.Clients
import RecordGateway.Connection
import RecordGateway.Form.Documents
import RecordGateway.Http.Service
import RecordGateway.Json.Encoding
import RecordGateway.Json.Writer
import RecordGateway.Partition.Positions
import RecordGateway.Partition.Selection
import RecordGateway.Problem
import RecordGateway.Publishing
import RecordGateway.Reading
import RecordGateway.Record.Inclusion
import RecordGateway.Request.Read
import RecordGateway.Request.Write
import RecordGateway.Session
import RecordGateway.Settings.Sources
import RecordGateway.Time.Notation
import RecordGateway.Proofs.Broker.Documented
import RecordGateway.Proofs.Broker.Log
import RecordGateway.Proofs.Client.Calls
import RecordGateway.Proofs.Client.Documented
import RecordGateway.Proofs.Partition.Order
import RecordGateway.Proofs.Publishing.Settlement
import RecordGateway.Proofs.Reading.Protocol
import RecordGateway.Proofs.Reading.Slice
import RecordGateway.Proofs.Session.Lifecycle
import RecordGateway.Proofs.Reading.Paging
import RecordGateway.Proofs.Record.View
import RecordGateway.Proofs.Text.Utf8
import RecordGateway.Proofs.Time.RoundTrip
import RecordGateway.Proofs.Publishing.ReadBack
import RecordGateway.Proofs.Json.Sendable
import RecordGateway.Proofs.Form.Issues
import RecordGateway.Proofs.Client.Creation
import RecordGateway.Proofs.Http.Verdict
import RecordGateway.Proofs.Http.Outcome
import RecordGateway.Proofs.Request.Flaw
import RecordGateway.Proofs.Session.Admission
import RecordGateway.Proofs.Session.Isolation
import RecordGateway.Proofs.Http.Agreement
import RecordGateway.Proofs.Time.Acceptance
import RecordGateway.Proofs.Time.Canonical
import RecordGateway.Proofs.Publishing.LastDay
import RecordGateway.Proofs.Partition.Resolution
import RecordGateway.Proofs.Partition.Selected
import RecordGateway.Proofs.Record.Respelling
import RecordGateway.Proofs.Text.Damage
import RecordGateway.Proofs.Publishing.Custody
import RecordGateway.Proofs.Time.Lexical
import RecordGateway.Proofs.Record.Headers
import RecordGateway.Proofs.Number.Version
import RecordGateway.Proofs.Client.Options
import RecordGateway.Proofs.Json.Depth
import RecordGateway.Proofs.Json.Nesting
import RecordGateway.Proofs.Json.Spelling
import RecordGateway.Proofs.Settings.Origins
import RecordGateway.Proofs.Form.TakenBack
import RecordGateway.Proofs.Settings.Sources
