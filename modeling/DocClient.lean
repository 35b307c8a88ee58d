import DocClient.Decimal.Shortest
import DocClient.Json.Value
import DocClient.Json.Writer
import DocClient.Json.Fault
import DocClient.Json.Reader
import DocClient.Json.Parse
import DocClient.Json.Decode
import DocClient.Text.Utf8
import DocClient.Text.Escaped
import DocClient.Text.Quoted
import DocClient.Document.Meta
import DocClient.Document.Key
import DocClient.Error
import DocClient.Key
import DocClient.Index.Kind
import DocClient.Index.Descriptor
import DocClient.Retry
import DocClient.Config
import DocClient.Wire.Request
import DocClient.Wire.Response
import DocClient.Call.Settings
import DocClient.Call.Sink
import DocClient.Call.Link
import DocClient.Collection.Basic
import DocClient.Collection.Document
import DocClient.Collection.Batch
import DocClient.Collection.Index
import DocClient.Http
import DocClient.Session.Script
import DocClient.Session
import DocClient.Proofs.Run
import DocClient.Proofs.Write
import DocClient.Proofs.Answer
import DocClient.Proofs.Batch.Step
import DocClient.Proofs.Batch.Correlation
import DocClient.Proofs.Batch.Cancellation
import DocClient.Proofs.Batch.Silent
import DocClient.Proofs.Batch.Structure
import DocClient.Proofs.Batch.Sinks
import DocClient.Proofs.Transport
import DocClient.Proofs.Addressing
import DocClient.Proofs.KeyGrammar
import DocClient.Proofs.Status
import DocClient.Proofs.Indexes
import DocClient.Proofs.Reading
import DocClient.Proofs.QueryMap
