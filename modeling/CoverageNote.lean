import CoverageNote.CommandLine.Basic
import CoverageNote.CommandLine.Wording
import CoverageNote.Comment
import CoverageNote.Console
import CoverageNote.Failure
import CoverageNote.Host.Call
import CoverageNote.Host.Listing
import CoverageNote.Host.Script
import CoverageNote.Host.Session
import CoverageNote.Host.Store
import CoverageNote.Http.Charset
import CoverageNote.Http.Client
import CoverageNote.Http.Exchange
import CoverageNote.Http.Message
import CoverageNote.Http.Network
import CoverageNote.Json.Basic
import CoverageNote.Json.Number
import CoverageNote.Json.Reader
import CoverageNote.Json.Shortest
import CoverageNote.Main
import CoverageNote.Plan.Basic
import CoverageNote.Plan.Posting
import CoverageNote.Program
import CoverageNote.Report.Body
import CoverageNote.Report.Command
import CoverageNote.Report.Row
import CoverageNote.Settings
import CoverageNote.Settings.Shown
import CoverageNote.Text.Base64
import CoverageNote.Text.Basic
import CoverageNote.Text.Blank
import CoverageNote.Text.CodeSet
import CoverageNote.Text.Lines
import CoverageNote.Text.Normal
import CoverageNote.Text.NormalTable
import CoverageNote.Text.Pattern
import CoverageNote.Text.Printable
import CoverageNote.Text.Quoted
import CoverageNote.Text.Similar
import CoverageNote.Text.Unstyled
import CoverageNote.Text.Utf8
import CoverageNote.Url.Basic
import CoverageNote.Url.Domain
import CoverageNote.Url.Domain.Classes
import CoverageNote.Url.Domain.Label
import CoverageNote.Url.Domain.Mapping
import CoverageNote.Url.Domain.Punycode
import CoverageNote.Url.Host
import CoverageNote.Url.Parser
import CoverageNote.Url.Path
import CoverageNote.Url.Percent
import CoverageNote.Proofs.Conversation
import CoverageNote.Proofs.Effect
import CoverageNote.Proofs.Session
import CoverageNote.Proofs.Marks
import CoverageNote.Proofs.Turns
import CoverageNote.Proofs.Standing
import CoverageNote.Proofs.Race
import CoverageNote.Proofs.Upkeep
import CoverageNote.Proofs.Report
import CoverageNote.Proofs.Failures
import CoverageNote.Proofs.Line
import CoverageNote.Proofs.Fields
import CoverageNote.Proofs.Table
import CoverageNote.Proofs.Layout
import CoverageNote.Proofs.Bytes
import CoverageNote.Proofs.Listing
import CoverageNote.Proofs.Choice
import CoverageNote.Proofs.Loading
import CoverageNote.Proofs.Comparison
import CoverageNote.Proofs.Control
import CoverageNote.Proofs.Url
import CoverageNote.Proofs.Requests
import CoverageNote.Proofs.Address
import CoverageNote.Proofs.Destination
import CoverageNote.Proofs.Peer
import CoverageNote.Proofs.Program
import CoverageNote.Proofs.Secret
import CoverageNote.Proofs.JsonText
import CoverageNote.Proofs.Routing
import CoverageNote.Proofs.ReadBack
import CoverageNote.Proofs.Entries
import CoverageNote.Proofs.Cells
import CoverageNote.Proofs.Percentage
import CoverageNote.Proofs.Fence
import CoverageNote.Proofs.Interface
import CoverageNote.Proofs.Arguments
