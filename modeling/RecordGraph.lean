import RecordGraph.SortedMap.Lemmas
import RecordGraph.Double.Text
import RecordGraph.Json.Printer
import RecordGraph.Json.Reader
import RecordGraph.Property.Datum
import RecordGraph.Decode.Settings
import RecordGraph.Settings.Load
import RecordGraph.Statement.Records
import RecordGraph.Store.Memory
import RecordGraph.Store.Scripted
import RecordGraph.Bolt.Server
import RecordGraph.Batch.Apply
import RecordGraph.Cli.Run
import RecordGraph.Main
import RecordGraph.Proofs.Statement.Text
import RecordGraph.Proofs.Writer.Runs
import RecordGraph.Proofs.Writer.Replacement
import RecordGraph.Proofs.Writer.Convergence
import RecordGraph.Proofs.Writer.History
import RecordGraph.Proofs.Validation
import RecordGraph.Proofs.Statement.Writable
import RecordGraph.Proofs.Store.Failures
import RecordGraph.Proofs.Writer.Acceptance
import RecordGraph.Proofs.Writer.Faithful
import RecordGraph.Proofs.Store.Protocol
import RecordGraph.Proofs.Writer.Metrics
import RecordGraph.Proofs.Statement.Inert
import RecordGraph.Proofs.Batch.Recovery
import RecordGraph.Proofs.Writer.Exchange
import RecordGraph.Proofs.Json.Values
import RecordGraph.Proofs.Property.Reading
import RecordGraph.Proofs.Double.Whole
import RecordGraph.Proofs.Decode.Shape
import RecordGraph.Proofs.Property.RoundTrip
import RecordGraph.Proofs.Property.Distinct
import RecordGraph.Proofs.Bolt.Transactions
import RecordGraph.Proofs.Registry
import RecordGraph.Proofs.Text.Bytes
import RecordGraph.Proofs.Urn.Grammar
import RecordGraph.Proofs.Fanout.Delivery
import RecordGraph.Proofs.Property.Equality
import RecordGraph.Proofs.Writer.Unlinking
import RecordGraph.Proofs.Writer.Detaching
import RecordGraph.Proofs.Writer.Refusal
import RecordGraph.Proofs.Statement.Bindings
import RecordGraph.Proofs.Urn.Assembly
import RecordGraph.Proofs.Writer.Keeping
import RecordGraph.Proofs.Writer.Reading
import RecordGraph.Proofs.Registry.Shared
import RecordGraph.Proofs.Store.Counting
import RecordGraph.Proofs.Bolt.Rows
import RecordGraph.Proofs.Settings.Credentials
