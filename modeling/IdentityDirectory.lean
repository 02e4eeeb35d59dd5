import IdentityDirectory.Bytes
import IdentityDirectory.Checksum
import IdentityDirectory.Client
import IdentityDirectory.CommandLine.Arguments
import IdentityDirectory.CommandLine.Run
import IdentityDirectory.Connection.EventLoop
import IdentityDirectory.Connection.Json
import IdentityDirectory.Connection.Lines
import IdentityDirectory.Connection.Stream
import IdentityDirectory.Counters
import IdentityDirectory.Directory
import IdentityDirectory.Error
import IdentityDirectory.FieldError
import IdentityDirectory.Json.Number
import IdentityDirectory.Json.Quoted
import IdentityDirectory.Json.Reader
import IdentityDirectory.Json.Record
import IdentityDirectory.Json.TextRequest
import IdentityDirectory.Json.Value
import IdentityDirectory.Json.Writer
import IdentityDirectory.Main
import IdentityDirectory.Message.Decode
import IdentityDirectory.Message.Header
import IdentityDirectory.Message.Record
import IdentityDirectory.Message.Request
import IdentityDirectory.Message.Response
import IdentityDirectory.Message.ResultCode
import IdentityDirectory.Message.Tag
import IdentityDirectory.Network.DevAddr
import IdentityDirectory.Network.Endpoint
import IdentityDirectory.Network.NetId
import IdentityDirectory.Network.Plan
import IdentityDirectory.Proofs.Checksum.Bursts
import IdentityDirectory.Proofs.Client.Calls
import IdentityDirectory.Proofs.Client.Exchange
import IdentityDirectory.Proofs.Client.Pages
import IdentityDirectory.Proofs.Connection.Isolation
import IdentityDirectory.Proofs.Connection.Lines
import IdentityDirectory.Proofs.Connection.Machine
import IdentityDirectory.Proofs.Connection.Serial
import IdentityDirectory.Proofs.Directory.Accounts
import IdentityDirectory.Proofs.Directory.Arrivals
import IdentityDirectory.Proofs.Directory.Buffered
import IdentityDirectory.Proofs.Directory.ByteMap
import IdentityDirectory.Proofs.Directory.ByteReplies
import IdentityDirectory.Proofs.Directory.Capacity
import IdentityDirectory.Proofs.Directory.Denial
import IdentityDirectory.Proofs.Directory.EndpointMap
import IdentityDirectory.Proofs.Directory.EndpointReplies
import IdentityDirectory.Proofs.Directory.Executable
import IdentityDirectory.Proofs.Directory.Frame
import IdentityDirectory.Proofs.Directory.Ledger
import IdentityDirectory.Proofs.Directory.Policy
import IdentityDirectory.Proofs.Directory.RawReplies
import IdentityDirectory.Proofs.Directory.Reachable
import IdentityDirectory.Proofs.Directory.Replies
import IdentityDirectory.Proofs.Directory.Runs
import IdentityDirectory.Proofs.Directory.Steps
import IdentityDirectory.Proofs.Directory.TextRequests
import IdentityDirectory.Proofs.Directory.WireForm
import IdentityDirectory.Proofs.Json.OneLine
import IdentityDirectory.Proofs.Json.Quoted
import IdentityDirectory.Proofs.Json.Reading
import IdentityDirectory.Proofs.Json.RecordTexts
import IdentityDirectory.Proofs.Json.Records
import IdentityDirectory.Proofs.Json.Replies
import IdentityDirectory.Proofs.Network.EndpointTexts
import IdentityDirectory.Proofs.Network.Ranges
import IdentityDirectory.Proofs.Record.FieldTexts
import IdentityDirectory.Proofs.Record.HexTexts
import IdentityDirectory.Proofs.Results
import IdentityDirectory.Proofs.Service.Kept
import IdentityDirectory.Proofs.Service.Restart
import IdentityDirectory.Proofs.Service.TwoFiles
import IdentityDirectory.Proofs.Settings.Check
import IdentityDirectory.Proofs.Settings.Saved
import IdentityDirectory.Proofs.Store.Calls
import IdentityDirectory.Proofs.Store.Disk
import IdentityDirectory.Proofs.Store.Files
import IdentityDirectory.Proofs.Store.GatewayKeys
import IdentityDirectory.Proofs.Store.Independence
import IdentityDirectory.Proofs.Store.Paths
import IdentityDirectory.Proofs.Store.Policy
import IdentityDirectory.Proofs.Store.RowMap
import IdentityDirectory.Proofs.Store.Rows
import IdentityDirectory.Proofs.Store.Saving
import IdentityDirectory.Proofs.Text.Digits
import IdentityDirectory.Proofs.Text.Ends
import IdentityDirectory.Proofs.Text.Lenient
import IdentityDirectory.Proofs.Text.Pieces
import IdentityDirectory.Proofs.Text.Places
import IdentityDirectory.Proofs.Text.Utf8
import IdentityDirectory.Proofs.Toml.Documents
import IdentityDirectory.Proofs.Toml.Quoted
import IdentityDirectory.Proofs.Toml.Scalars
import IdentityDirectory.Proofs.Urn.Checksum
import IdentityDirectory.Proofs.Urn.Fields
import IdentityDirectory.Proofs.Urn.RoundTrip
import IdentityDirectory.Proofs.Wire.Cursor
import IdentityDirectory.Proofs.Wire.Fitting
import IdentityDirectory.Proofs.Wire.Grammar
import IdentityDirectory.Proofs.Wire.RecordLists
import IdentityDirectory.Proofs.Wire.Records
import IdentityDirectory.Proofs.Wire.RequestCodec
import IdentityDirectory.Proofs.Wire.Requests
import IdentityDirectory.Proofs.Wire.ResponseCursor
import IdentityDirectory.Proofs.Wire.ResponseGrammar
import IdentityDirectory.Proofs.Wire.Responses
import IdentityDirectory.Proofs.Wire.Shedding
import IdentityDirectory.Proofs.Wire.Slices
import IdentityDirectory.Proofs.Wire.Window
import IdentityDirectory.Record.Field
import IdentityDirectory.Record.Gateway
import IdentityDirectory.Record.Identity
import IdentityDirectory.Service
import IdentityDirectory.Settings.Basic
import IdentityDirectory.Settings.Check
import IdentityDirectory.Settings.Choice
import IdentityDirectory.Settings.Environment
import IdentityDirectory.Settings.Error
import IdentityDirectory.Settings.File
import IdentityDirectory.Settings.Toml
import IdentityDirectory.Store.Backing
import IdentityDirectory.Store.Disk
import IdentityDirectory.Store.Error
import IdentityDirectory.Store.Gateways
import IdentityDirectory.Store.Identities
import IdentityDirectory.Store.Path
import IdentityDirectory.Store.Rows
import IdentityDirectory.Text.Basic
import IdentityDirectory.Text.Blank
import IdentityDirectory.Text.Hex
import IdentityDirectory.Text.Number
import IdentityDirectory.Text.Utf8
import IdentityDirectory.Toml.Document
import IdentityDirectory.Toml.Moment
import IdentityDirectory.Toml.Number
import IdentityDirectory.Toml.Quoted
import IdentityDirectory.Toml.Reader
import IdentityDirectory.Toml.Value
import IdentityDirectory.Toml.Writer
import IdentityDirectory.Urn.Basic
import IdentityDirectory.Urn.Error
