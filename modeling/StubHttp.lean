import StubHttp.Catalog
import StubHttp.CommandLine.ListenHost
import StubHttp.CommandLine.Parse
import StubHttp.CommandLine.PortNumber
import StubHttp.CommandLine.Report
import StubHttp.CommandLine.Usage
import StubHttp.Console
import StubHttp.Event
import StubHttp.Fixture
import StubHttp.Handler
import StubHttp.Http.Connection
import StubHttp.Http.Head
import StubHttp.Http.Method
import StubHttp.Http.Rejection
import StubHttp.Http.Reply
import StubHttp.Http.Uri
import StubHttp.Json.Fault
import StubHttp.Json.Lexeme
import StubHttp.Json.Printer
import StubHttp.Json.Reader
import StubHttp.Json.Skip
import StubHttp.Json.Value
import StubHttp.Listing
import StubHttp.LogFilter.Basic
import StubHttp.LogFilter.Reader
import StubHttp.Main
import StubHttp.Net.Address
import StubHttp.Net.AddressReader
import StubHttp.Net.Endpoint
import StubHttp.Net.Host
import StubHttp.Net.IoError
import StubHttp.Net.Socket
import StubHttp.Number.Binary64
import StubHttp.Number.Shortest
import StubHttp.Pattern.Basic
import StubHttp.Pattern.Groups
import StubHttp.Pattern.Sets
import StubHttp.Program
import StubHttp.Proofs.Announcement
import StubHttp.Proofs.Catalog
import StubHttp.Proofs.CommandLine.PortNumber
import StubHttp.Proofs.CommandLine.Settings
import StubHttp.Proofs.Connection
import StubHttp.Proofs.Console
import StubHttp.Proofs.Construction
import StubHttp.Proofs.Diagnostics
import StubHttp.Proofs.Dispatch
import StubHttp.Proofs.EventLog
import StubHttp.Proofs.Http.Absolute
import StubHttp.Proofs.Http.Head
import StubHttp.Proofs.Http.Settled
import StubHttp.Proofs.Http.Target
import StubHttp.Proofs.Http.Uri
import StubHttp.Proofs.Independence
import StubHttp.Proofs.Jobs
import StubHttp.Proofs.Json.Body
import StubHttp.Proofs.Json.Brackets
import StubHttp.Proofs.Json.Compact
import StubHttp.Proofs.Json.Gather
import StubHttp.Proofs.Json.Grammar
import StubHttp.Proofs.Json.Integers
import StubHttp.Proofs.Json.Members
import StubHttp.Proofs.Json.NumberText
import StubHttp.Proofs.Json.Numbers
import StubHttp.Proofs.Json.Pairs
import StubHttp.Proofs.Json.Printer
import StubHttp.Proofs.Json.Reader
import StubHttp.Proofs.Json.RoundTrip
import StubHttp.Proofs.Json.Skip
import StubHttp.Proofs.Json.Strings
import StubHttp.Proofs.Json.Unambiguity
import StubHttp.Proofs.Json.Values
import StubHttp.Proofs.LimitedConsole
import StubHttp.Proofs.ListenHost
import StubHttp.Proofs.Listing
import StubHttp.Proofs.Net.Binding
import StubHttp.Proofs.Net.Groups
import StubHttp.Proofs.Net.IPv6
import StubHttp.Proofs.Outcome
import StubHttp.Proofs.Rearrangement
import StubHttp.Proofs.Restarts
import StubHttp.Proofs.Servable
import StubHttp.Proofs.Server
import StubHttp.Proofs.Spellings
import StubHttp.Proofs.Text.Utf8
import StubHttp.Proofs.Track.Decoder
import StubHttp.Proofs.Track.Fields
import StubHttp.Proofs.Track.Grammar
import StubHttp.Proofs.Track.RoundTrip
import StubHttp.Proofs.Track.Written
import StubHttp.Proofs.Validation
import StubHttp.Proofs.Wire
import StubHttp.Server
import StubHttp.Text.Alphanumeric
import StubHttp.Text.Bytes
import StubHttp.Text.Columns
import StubHttp.Text.Digits
import StubHttp.Text.Plain
import StubHttp.Text.Quoted
import StubHttp.Text.Ranges
import StubHttp.Text.ShownByNumber
import StubHttp.Text.Similarity
import StubHttp.Text.WhiteSpace
import StubHttp.Track.Basic
import StubHttp.Track.Decoder
