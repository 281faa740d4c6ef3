import EntityQuery.Frame
import EntityQuery.Main
import EntityQuery.Query.Operation
import EntityQuery.Query.Reader
import EntityQuery.Proofs.CommandLine.Arguments
import EntityQuery.Proofs.CommandLine.Console
import EntityQuery.Proofs.CommandLine.Exit
import EntityQuery.Proofs.CommandLine.FilterQuery
import EntityQuery.Proofs.CommandLine.FilterTexts
import EntityQuery.Proofs.CommandLine.Filters
import EntityQuery.Proofs.CommandLine.Output
import EntityQuery.Proofs.CommandLine.Report
import EntityQuery.Proofs.CommandLine.Requests
import EntityQuery.Proofs.CommandLine.Search
import EntityQuery.Proofs.CommandLine.Startup
import EntityQuery.Proofs.CommandLine.User
import EntityQuery.Proofs.CommandLine.Wait
import EntityQuery.Proofs.Interruption
import EntityQuery.Proofs.Literal.Input
import EntityQuery.Proofs.Literal.Positional
import EntityQuery.Proofs.Literal.RoundTrip
import EntityQuery.Proofs.Literal.Table
import EntityQuery.Proofs.Logging.Delivery
import EntityQuery.Proofs.Logging.Hierarchy
import EntityQuery.Proofs.Logging.Refusal
import EntityQuery.Proofs.Number.DecimalText
import EntityQuery.Proofs.Number.Rounding
import EntityQuery.Proofs.Number.Shortest
import EntityQuery.Proofs.Outcome
import EntityQuery.Proofs.Query.Bulk
import EntityQuery.Proofs.Query.Change
import EntityQuery.Proofs.Query.Decoding
import EntityQuery.Proofs.Query.History
import EntityQuery.Proofs.Query.Initialization
import EntityQuery.Proofs.Query.Invariant
import EntityQuery.Proofs.Query.OwnErrors
import EntityQuery.Proofs.Query.Step
import EntityQuery.Proofs.Query.Token
import EntityQuery.Proofs.Query.Unset
import EntityQuery.Proofs.Reading.Moment
import EntityQuery.Proofs.Reading.NotANumber
import EntityQuery.Proofs.Reading.Number
import EntityQuery.Proofs.Reading.Written
import EntityQuery.Proofs.Schema.Catalog
import EntityQuery.Proofs.Schema.Description
import EntityQuery.Proofs.Schema.Refusal
import EntityQuery.Proofs.Service.Address
import EntityQuery.Proofs.Service.Content
import EntityQuery.Proofs.Service.Exchange
import EntityQuery.Proofs.Service.Form
import EntityQuery.Proofs.Service.Legible
import EntityQuery.Proofs.Service.Log
import EntityQuery.Proofs.Service.Obstacle
import EntityQuery.Proofs.Service.Payload
import EntityQuery.Proofs.Service.Reports
import EntityQuery.Proofs.Service.Requests
import EntityQuery.Proofs.Service.Results
import EntityQuery.Proofs.Service.Wait
import EntityQuery.Proofs.Session.History
import EntityQuery.Proofs.Session.Loading
import EntityQuery.Proofs.Session.Log
import EntityQuery.Proofs.Session.Replies
import EntityQuery.Proofs.Session.Requests
import EntityQuery.Proofs.Session.SetText
import EntityQuery.Proofs.Session.Step
import EntityQuery.Proofs.Table.Cells
import EntityQuery.Proofs.Table.Faults
import EntityQuery.Proofs.Table.Forms
import EntityQuery.Proofs.Table.Header
import EntityQuery.Proofs.Table.Rows
import EntityQuery.Proofs.Table.Writable
import EntityQuery.Proofs.Value.Entries
import EntityQuery.Proofs.Value.Writable
