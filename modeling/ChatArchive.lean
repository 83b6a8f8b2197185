import ChatArchive.Api.Body
import ChatArchive.Api.Error
import ChatArchive.Api.Extract
import ChatArchive.Api.Target
import ChatArchive.Der.Certificate
import ChatArchive.Der.Reader
import ChatArchive.Event.Read
import ChatArchive.Event.Types
import ChatArchive.Event.Write
import ChatArchive.Failure
import ChatArchive.Host.Disk
import ChatArchive.Host.Dotenv
import ChatArchive.Ingest.Convert
import ChatArchive.Ingest.Directory
import ChatArchive.Ingest.Error
import ChatArchive.Ingest.Pipeline
import ChatArchive.Json.Fault
import ChatArchive.Json.Mismatch
import ChatArchive.Json.Number
import ChatArchive.Json.Reader
import ChatArchive.Json.Record
import ChatArchive.Json.Render
import ChatArchive.Json.Scan
import ChatArchive.Json.Str
import ChatArchive.Json.Stream
import ChatArchive.Json.Tagged
import ChatArchive.Json.Tree
import ChatArchive.Json.Value
import ChatArchive.Key.Curve
import ChatArchive.Key.Edwards
import ChatArchive.Key.Private
import ChatArchive.Key.Sha512
import ChatArchive.Lane.Errors
import ChatArchive.Lane.Fault
import ChatArchive.Lane.Queue
import ChatArchive.Lane.Script
import ChatArchive.Lane.System
import ChatArchive.Log.Correlation
import ChatArchive.Log.Logger
import ChatArchive.Log.Trace
import ChatArchive.Main
import ChatArchive.Net.Address
import ChatArchive.Pem.Base64
import ChatArchive.Pem.Section
import ChatArchive.Proofs.Ingest.Archive
import ChatArchive.Proofs.Ingest.Names
import ChatArchive.Proofs.Ingest.Records
import ChatArchive.Proofs.Json.Cursor
import ChatArchive.Proofs.Log.Fields
import ChatArchive.Proofs.Json.Numbers
import ChatArchive.Proofs.Json.Objects
import ChatArchive.Proofs.Json.Readers
import ChatArchive.Proofs.Json.RoundTrip
import ChatArchive.Proofs.Json.Strings
import ChatArchive.Proofs.Lane.Blind
import ChatArchive.Proofs.Lane.Execution
import ChatArchive.Proofs.Lane.Handshake
import ChatArchive.Proofs.Lane.Idle
import ChatArchive.Proofs.Lane.Lifecycle
import ChatArchive.Proofs.Lane.Mirror
import ChatArchive.Proofs.Lane.Refinement
import ChatArchive.Proofs.Lane.Replay
import ChatArchive.Proofs.Lane.Schedule
import ChatArchive.Proofs.Lane.Steps
import ChatArchive.Proofs.Service.Feed
import ChatArchive.Proofs.Service.Ingest
import ChatArchive.Proofs.Service.Visibility
import ChatArchive.Proofs.Snapshot.RoundTrip
import ChatArchive.Proofs.Snapshot.Wire
import ChatArchive.Proofs.Store.Catalog
import ChatArchive.Proofs.Store.Containers
import ChatArchive.Proofs.Store.Ensure
import ChatArchive.Proofs.Store.FirstWrite
import ChatArchive.Proofs.Store.History
import ChatArchive.Proofs.Store.Order
import ChatArchive.Proofs.Store.Reads
import ChatArchive.Proofs.Store.Retrieval
import ChatArchive.Proofs.Store.Rows
import ChatArchive.Proofs.Store.Statements
import ChatArchive.Proofs.Time.Calendar
import ChatArchive.Proofs.Time.Rfc3339
import ChatArchive.Record.Flags
import ChatArchive.Record.Read
import ChatArchive.Record.Types
import ChatArchive.Record.Uid
import ChatArchive.Record.Write
import ChatArchive.Server.LogFilter
import ChatArchive.Server.Process
import ChatArchive.Service.Config
import ChatArchive.Service.Feed
import ChatArchive.Service.Ingest
import ChatArchive.Service.Query
import ChatArchive.Service.State
import ChatArchive.Snapshot.Codec
import ChatArchive.Snapshot.Wire
import ChatArchive.Store.Database
import ChatArchive.Store.Error
import ChatArchive.Store.Name
import ChatArchive.Store.Sql.Datum
import ChatArchive.Store.Sql.Eval
import ChatArchive.Store.Sql.Parse
import ChatArchive.Store.Sql.Run
import ChatArchive.Store.Sql.Schema
import ChatArchive.Store.Sql.Syntax
import ChatArchive.Store.Sql.Token
import ChatArchive.Text.Decimal
import ChatArchive.Text.Hex
import ChatArchive.Text.Nearest
import ChatArchive.Text.Quoted
import ChatArchive.Text.Shortest
import ChatArchive.Text.Space
import ChatArchive.Text.Unsigned
import ChatArchive.Time.Civil
import ChatArchive.Time.Instant
import ChatArchive.Time.Parse
import ChatArchive.Tls.Material
import ChatArchive.Proofs.Snapshot.Unknown
import ChatArchive.Proofs.Server.Backlog
import ChatArchive.Proofs.Service.Redelivery
import ChatArchive.Proofs.Service.ReadAnswers
