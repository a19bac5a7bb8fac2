import RemoteShell.Binding.Bind
import RemoteShell.Binding.Convert
import RemoteShell.Binding.Error
import RemoteShell.Binding.Group
import RemoteShell.Binding.Position
import RemoteShell.Binding.Render
import RemoteShell.Binding.Value
import RemoteShell.Commands.Letter
import RemoteShell.Commands.Listing
import RemoteShell.Commands.Plan
import RemoteShell.Commands.Table
import RemoteShell.Commands.Task
import RemoteShell.Completion.Completer
import RemoteShell.Completion.Cursor
import RemoteShell.Decimal.Binary
import RemoteShell.Decimal.Shortest
import RemoteShell.Dict
import RemoteShell.Json.Basic
import RemoteShell.Json.Printer
import RemoteShell.Json.Reader
import RemoteShell.Layout.Clock
import RemoteShell.Layout.Columns
import RemoteShell.Layout.Style
import RemoteShell.Layout.Table
import RemoteShell.Main
import RemoteShell.Path
import RemoteShell.Program
import RemoteShell.Schema.Basic
import RemoteShell.Schema.Registry
import RemoteShell.Service.Failure
import RemoteShell.Service.Http
import RemoteShell.Service.Reply
import RemoteShell.Service.Request
import RemoteShell.Session
import RemoteShell.Settings.Basic
import RemoteShell.Settings.CommandLine
import RemoteShell.Settings.LogLevel
import RemoteShell.Shell.Basic
import RemoteShell.Shell.Host
import RemoteShell.Shell.Line
import RemoteShell.Shell.Script
import RemoteShell.Shell.Settle
import RemoteShell.Terminal.Console
import RemoteShell.Terminal.Pager
import RemoteShell.Terminal.Reader
import RemoteShell.Text.Blank
import RemoteShell.Text.Bytes
import RemoteShell.Text.CodeTable
import RemoteShell.Text.Composition
import RemoteShell.Text.Direction
import RemoteShell.Text.Fields
import RemoteShell.Text.Joining
import RemoteShell.Text.LetterCase
import RemoteShell.Text.Mark
import RemoteShell.Text.Numeral
import RemoteShell.Token.Basic
import RemoteShell.Token.Hints
import RemoteShell.Token.Quoting
import RemoteShell.Token.Render
import RemoteShell.Token.Scan
import RemoteShell.Url.Basic
import RemoteShell.Url.Domain
import RemoteShell.Url.DomainMap
import RemoteShell.Url.Host
import RemoteShell.Url.Percent
import RemoteShell.Url.Punycode
import RemoteShell.Yaml.Block
import RemoteShell.Yaml.Character
import RemoteShell.Yaml.Cursor
import RemoteShell.Yaml.Document
import RemoteShell.Yaml.Gap
import RemoteShell.Yaml.Plain
import RemoteShell.Yaml.Quoted
import RemoteShell.Yaml.Scalar
import RemoteShell.Yaml.Tag
import RemoteShell.Yaml.Token
import RemoteShell.Proofs.Token.Form
import RemoteShell.Proofs.Token.Quoted
import RemoteShell.Proofs.Token.RoundTrip
import RemoteShell.Proofs.Path.NormalForm
import RemoteShell.Proofs.Token.Hints
import RemoteShell.Proofs.Binding.Result
import RemoteShell.Proofs.Binding.Written
import RemoteShell.Proofs.Binding.Conservation
import RemoteShell.Proofs.Binding.RoundTrip
import RemoteShell.Proofs.Shell.FolderLine
import RemoteShell.Proofs.Shell.FolderRun
import RemoteShell.Proofs.Shell.FailedPush
import RemoteShell.Proofs.Token.Exchange
import RemoteShell.Proofs.Token.Append
import RemoteShell.Proofs.Completion.Answer
import RemoteShell.Proofs.Completion.Candidates
import RemoteShell.Proofs.Shell.Output
import RemoteShell.Proofs.Shell.Errand
import RemoteShell.Proofs.Shell.Isolation
import RemoteShell.Proofs.Shell.Batch
import RemoteShell.Proofs.Completion.Staleness
import RemoteShell.Proofs.Shell.Stimulus
import RemoteShell.Proofs.Shell.JobLaw
import RemoteShell.Proofs.Shell.InputMode
import RemoteShell.Proofs.Commands.Origin
import RemoteShell.Proofs.Commands.Refusal
import RemoteShell.Proofs.Commands.Silence
import RemoteShell.Proofs.Commands.Provenance
import RemoteShell.Proofs.Schema.Registry
import RemoteShell.Proofs.Shell.Succession
import RemoteShell.Proofs.Shell.Cancellation
import RemoteShell.Proofs.Commands.PathParameters
import RemoteShell.Proofs.Shell.WorkingFolder
import RemoteShell.Proofs.Shell.Composition
import RemoteShell.Proofs.Shell.GivenUp
import RemoteShell.Proofs.Shell.Delivery
import RemoteShell.Proofs.Token.Pieces
import RemoteShell.Proofs.Token.NamedHint
import RemoteShell.Proofs.Binding.Walk
import RemoteShell.Proofs.Binding.Position
import RemoteShell.Proofs.Binding.NextWord
import RemoteShell.Proofs.Shell.FolderStack
import RemoteShell.Proofs.Token.Joined
import RemoteShell.Proofs.Token.Cover
import RemoteShell.Proofs.Path.Way
import RemoteShell.Proofs.Completion.SameRequest
import RemoteShell.Proofs.Binding.Operand
import RemoteShell.Proofs.Binding.NamedOrder
import RemoteShell.Proofs.Binding.Positional
import RemoteShell.Proofs.Terminal.Paging
import RemoteShell.Proofs.Terminal.Questions
import RemoteShell.Proofs.Json.WellFormed
import RemoteShell.Proofs.Service.RequestBody
import RemoteShell.Proofs.Layout.Width
import RemoteShell.Proofs.Layout.Squeeze
import RemoteShell.Proofs.Layout.Table
import RemoteShell.Proofs.Layout.Columns
import RemoteShell.Proofs.Commands.GroupAttributes
import RemoteShell.Proofs.Shell.Spelling
import RemoteShell.Proofs.Token.Inverse
import RemoteShell.Proofs.Layout.Leveling
import RemoteShell.Proofs.Binding.Abbreviation
