import MessageBroker.Broker.Basic
import MessageBroker.Broker.Connection
import MessageBroker.Broker.Delivery
import MessageBroker.Broker.Event
import MessageBroker.Broker.FanOut
import MessageBroker.Broker.Request
import MessageBroker.Broker.Schedule
import MessageBroker.Broker.Stats
import MessageBroker.Broker.Worker
import MessageBroker.Bytes
import MessageBroker.CorrelationId
import MessageBroker.Decimal.Number
import MessageBroker.Decimal.Shortest
import MessageBroker.Hex
import MessageBroker.Lease.Buffer
import MessageBroker.Lease.Pool
import MessageBroker.Ledger
import MessageBroker.Ledger.Tracker
import MessageBroker.Net.Address
import MessageBroker.Pack.Reader
import MessageBroker.Pack.Value
import MessageBroker.Peer.Client
import MessageBroker.Peer.Link
import MessageBroker.Peer.Session
import MessageBroker.Plain
import MessageBroker.Proofs.Broker.Accounting
import MessageBroker.Proofs.Broker.Answers
import MessageBroker.Proofs.Broker.Arrivals
import MessageBroker.Proofs.Broker.Attendance
import MessageBroker.Proofs.Broker.Books
import MessageBroker.Proofs.Broker.Connections
import MessageBroker.Proofs.Broker.Conservation
import MessageBroker.Proofs.Broker.Deliveries
import MessageBroker.Proofs.Broker.Desk
import MessageBroker.Proofs.Broker.Duties
import MessageBroker.Proofs.Broker.Flights
import MessageBroker.Proofs.Broker.Front
import MessageBroker.Proofs.Broker.Moves
import MessageBroker.Proofs.Broker.Passages
import MessageBroker.Proofs.Broker.Retirement
import MessageBroker.Proofs.Broker.Roll
import MessageBroker.Proofs.Broker.Settlement
import MessageBroker.Proofs.Broker.Slots
import MessageBroker.Proofs.Broker.Stakes
import MessageBroker.Proofs.Broker.Suspension
import MessageBroker.Proofs.Broker.Traces
import MessageBroker.Proofs.Broker.Wakeups
import MessageBroker.Proofs.Ledger.Decision
import MessageBroker.Proofs.Ledger.Settling
import MessageBroker.Proofs.Ledger.Tracking
import MessageBroker.Proofs.Stream.Chunking
import MessageBroker.Proofs.Stream.Unread
import MessageBroker.Proofs.Table
import MessageBroker.Proofs.Wire.Exactness
import MessageBroker.Proofs.Wire.Parsing
import MessageBroker.Queue.Basic
import MessageBroker.Queue.Crowd
import MessageBroker.Queue.Gate
import MessageBroker.Queue.Name
import MessageBroker.Queue.Roster
import MessageBroker.References
import MessageBroker.Route
import MessageBroker.Server.Admin
import MessageBroker.Server.Metered
import MessageBroker.Server.Metrics
import MessageBroker.Settings.Engine
import MessageBroker.Settings.Layers
import MessageBroker.Settings.Load
import MessageBroker.Settings.Reading
import MessageBroker.Settings.Server
import MessageBroker.Store.Depot
import MessageBroker.Store.Message
import MessageBroker.Stream.Assembler
import MessageBroker.Table
import MessageBroker.Text.Quoted
import MessageBroker.Time.Backoff
import MessageBroker.Time.Duration
import MessageBroker.Toml.Document
import MessageBroker.Toml.Node
import MessageBroker.Toml.Scalar
import MessageBroker.Toml.Text
import MessageBroker.Wire.Body
import MessageBroker.Wire.Error
import MessageBroker.Wire.Frame
import MessageBroker.Wire.Kind
import MessageBroker.Proofs.Broker.Register
import MessageBroker.Proofs.Broker.Episodes
import MessageBroker.Proofs.Broker.Registration
import MessageBroker.Proofs.Broker.Detachment
import MessageBroker.Proofs.Broker.Refusals
import MessageBroker.Proofs.Broker.Lives
import MessageBroker.Proofs.Broker.Violations
import MessageBroker.Proofs.Broker.Effects
import MessageBroker.Proofs.Broker.Exchanges
import MessageBroker.Proofs.Broker.Replies
import MessageBroker.Proofs.Wire.Bodies
import MessageBroker.Proofs.Broker.Confirmation
import MessageBroker.Proofs.Broker.Provenance
import MessageBroker.Proofs.Broker.Rest
import MessageBroker.Proofs.Store.Listing
import MessageBroker.Proofs.Broker.Storage
import MessageBroker.Proofs.Broker.Recovery
import MessageBroker.Proofs.Broker.Occupancy
import MessageBroker.Proofs.Broker.Aftermath
import MessageBroker.Proofs.Broker.Lineup
import MessageBroker.Proofs.Broker.Pacing
import MessageBroker.Proofs.Broker.Succession
import MessageBroker.Proofs.Broker.Sequence
import MessageBroker.Proofs.Lease.Lending
import MessageBroker.Proofs.Lease.Classes
import MessageBroker.Proofs.Lease.Circulation
import MessageBroker.Proofs.Stream.Guards
import MessageBroker.Proofs.Stream.ByteQueue
import MessageBroker.Proofs.Stream.Footprint
import MessageBroker.Proofs.Lease.Construction
import MessageBroker.Proofs.Queue.Rotation
import MessageBroker.Proofs.Queue.Sharing
import MessageBroker.Proofs.Queue.Waiting
import MessageBroker.Proofs.Pack.Forms
import MessageBroker.Proofs.Wire.Records
import MessageBroker.Proofs.Wire.Sizes
import MessageBroker.Proofs.Broker.Turnover
import MessageBroker.Proofs.Broker.Origins
import MessageBroker.Proofs.Time.Growth
import MessageBroker.Proofs.Route
import MessageBroker.Proofs.References
import MessageBroker.Proofs.Broker.Company
import MessageBroker.Proofs.Server.Metering
