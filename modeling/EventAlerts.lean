import EventAlerts.Decimal.Convert
import EventAlerts.Decimal.Format
import EventAlerts.Decimal.Reader
import EventAlerts.Decimal.Shortest
import EventAlerts.Engine.Basic
import EventAlerts.Engine.Dispatch
import EventAlerts.Engine.Outbox
import EventAlerts.Engine.Pipeline
import EventAlerts.Engine.Store
import EventAlerts.Expr.Call
import EventAlerts.Expr.Error
import EventAlerts.Expr.Eval
import EventAlerts.Expr.Filter
import EventAlerts.Expr.Operator
import EventAlerts.Expr.Order
import EventAlerts.Expr.Parser
import EventAlerts.Expr.Syntax
import EventAlerts.Expr.Test
import EventAlerts.Expr.Token
import EventAlerts.Expr.Value
import EventAlerts.Host.Environment
import EventAlerts.Host.Registry
import EventAlerts.Host.Subscription
import EventAlerts.Json.Basic
import EventAlerts.Json.Decode
import EventAlerts.Json.Number
import EventAlerts.Json.Parser
import EventAlerts.Json.Printer
import EventAlerts.Main
import EventAlerts.Messaging.Delivery
import EventAlerts.Messaging.Directory
import EventAlerts.Messaging.Identity
import EventAlerts.Messaging.Message
import EventAlerts.Occurrence.Actor
import EventAlerts.Occurrence.Basic
import EventAlerts.Occurrence.Command
import EventAlerts.Occurrence.Record
import EventAlerts.Program.CommandLine
import EventAlerts.Program.Help
import EventAlerts.Program.Platform
import EventAlerts.Program.Replay
import EventAlerts.Proofs.Decimal.Digits
import EventAlerts.Proofs.Engine.Accounts
import EventAlerts.Proofs.Engine.Answering
import EventAlerts.Proofs.Engine.Attempts
import EventAlerts.Proofs.Engine.Blankness
import EventAlerts.Proofs.Engine.Dispatching
import EventAlerts.Proofs.Engine.Ending
import EventAlerts.Proofs.Engine.History
import EventAlerts.Proofs.Engine.Isolation
import EventAlerts.Proofs.Engine.Journal
import EventAlerts.Proofs.Engine.Overrun
import EventAlerts.Proofs.Engine.Preparation
import EventAlerts.Proofs.Engine.Reading
import EventAlerts.Proofs.Engine.Reloading
import EventAlerts.Proofs.Engine.Skipping
import EventAlerts.Proofs.Engine.Taking
import EventAlerts.Proofs.Engine.Urgency
import EventAlerts.Proofs.Engine.Waiting
import EventAlerts.Proofs.Host.Chronicle
import EventAlerts.Proofs.Host.Creation
import EventAlerts.Proofs.Host.Following
import EventAlerts.Proofs.Json.Members
import EventAlerts.Proofs.Json.Reading
import EventAlerts.Proofs.Messaging.Console
import EventAlerts.Proofs.Messaging.Reading
import EventAlerts.Proofs.Messaging.Resolution
import EventAlerts.Proofs.Occurrence.Normal
import EventAlerts.Proofs.Occurrence.Spelling
import EventAlerts.Proofs.Program.Inert
import EventAlerts.Proofs.Render.Bindings
import EventAlerts.Proofs.Render.Codes
import EventAlerts.Proofs.Render.Escaping
import EventAlerts.Proofs.Render.Expansion
import EventAlerts.Proofs.Render.Mentions
import EventAlerts.Proofs.Render.Placing
import EventAlerts.Proofs.Render.Reserved
import EventAlerts.Proofs.Render.Scanning
import EventAlerts.Proofs.Render.Segmentation
import EventAlerts.Proofs.Render.Sender
import EventAlerts.Proofs.Rule.Coloring
import EventAlerts.Proofs.Rule.Distinct
import EventAlerts.Proofs.Rule.Expiry
import EventAlerts.Proofs.Rule.Grammar
import EventAlerts.Proofs.Rule.Lifetimes
import EventAlerts.Proofs.Rule.Loading
import EventAlerts.Proofs.Rule.Matching
import EventAlerts.Proofs.Rule.Naming
import EventAlerts.Proofs.Rule.Printing
import EventAlerts.Proofs.Text.Replacing
import EventAlerts.Proofs.Time.Reading
import EventAlerts.Proofs.Time.Sharing
import EventAlerts.Proofs.Time.Spans
import EventAlerts.Proofs.Unicode.Lowering
import EventAlerts.Proofs.Unicode.Settled
import EventAlerts.Render.Context
import EventAlerts.Render.Interpolation
import EventAlerts.Render.Message
import EventAlerts.Render.Placeholder
import EventAlerts.Render.Sanitize
import EventAlerts.Rule.Basic
import EventAlerts.Rule.Category
import EventAlerts.Rule.File
import EventAlerts.Rule.Listing
import EventAlerts.Rule.Resolver
import EventAlerts.Rule.Template
import EventAlerts.Rule.Trigger
import EventAlerts.Text.Basic
import EventAlerts.Text.Quoted
import EventAlerts.Time.Calendar
import EventAlerts.Time.Clock
import EventAlerts.Time.SpanText
import EventAlerts.Time.Stamp
import EventAlerts.Toml.Basic
import EventAlerts.Toml.Document
import EventAlerts.Toml.Lexeme
import EventAlerts.Toml.Number
import EventAlerts.Toml.Parser
import EventAlerts.Unicode.Case
import EventAlerts.Unicode.CaseTable
import EventAlerts.Unicode.Letter
import EventAlerts.Unicode.Printable
import EventAlerts.Unicode.Ranges
