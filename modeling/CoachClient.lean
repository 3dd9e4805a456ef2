import CoachClient.Access.Guard
import CoachClient.Access.Store
import CoachClient.Coaching.Account
import CoachClient.Coaching.Page
import CoachClient.Coaching.Session
import CoachClient.Command.Basic
import CoachClient.Command.Fault
import CoachClient.Command.Grammar
import CoachClient.Command.Reading
import CoachClient.Display.Text
import CoachClient.Display.View
import CoachClient.Http.Cookie
import CoachClient.Http.Exchange
import CoachClient.Http.Header
import CoachClient.Http.Message
import CoachClient.Http.Status
import CoachClient.Json.Cursor
import CoachClient.Json.Entries
import CoachClient.Json.Failure
import CoachClient.Json.Reader
import CoachClient.Json.Record
import CoachClient.Json.Skip
import CoachClient.Json.Value
import CoachClient.Json.Writer
import CoachClient.Main
import CoachClient.Number.Binary
import CoachClient.Number.Shortest
import CoachClient.Proofs.Coaching.Following
import CoachClient.Proofs.Coaching.NewSession
import CoachClient.Proofs.Coaching.Parts
import CoachClient.Proofs.Coaching.Rearranged
import CoachClient.Proofs.Coaching.RoundTrip
import CoachClient.Proofs.Coaching.Rules
import CoachClient.Proofs.Command.Agreement
import CoachClient.Proofs.Command.Reads
import CoachClient.Proofs.Command.Spelling
import CoachClient.Proofs.Display.Amounts
import CoachClient.Proofs.Display.Tables
import CoachClient.Proofs.Http.Exchange
import CoachClient.Proofs.Http.Header
import CoachClient.Proofs.Http.Redirects
import CoachClient.Proofs.Http.Secrets
import CoachClient.Proofs.Json.Grammar
import CoachClient.Proofs.Json.Lists
import CoachClient.Proofs.Json.Members
import CoachClient.Proofs.Json.Nested
import CoachClient.Proofs.Json.Numerals
import CoachClient.Proofs.Json.Objects
import CoachClient.Proofs.Json.Order
import CoachClient.Proofs.Json.Rearranged
import CoachClient.Proofs.Json.Skip
import CoachClient.Proofs.Json.Spelling
import CoachClient.Proofs.Json.Takes
import CoachClient.Proofs.Json.Tokens
import CoachClient.Proofs.Json.Values
import CoachClient.Proofs.Service.Address
import CoachClient.Proofs.Service.Attempts
import CoachClient.Proofs.Service.Classification
import CoachClient.Proofs.Service.Credential
import CoachClient.Proofs.Service.Delivery
import CoachClient.Proofs.Service.Endpoint
import CoachClient.Proofs.Service.Events
import CoachClient.Proofs.Service.Flight
import CoachClient.Proofs.Service.Flow
import CoachClient.Proofs.Service.Gates
import CoachClient.Proofs.Service.Handles
import CoachClient.Proofs.Service.Headers
import CoachClient.Proofs.Service.Interference
import CoachClient.Proofs.Service.Once
import CoachClient.Proofs.Service.Origin
import CoachClient.Proofs.Service.Reach
import CoachClient.Proofs.Service.Request
import CoachClient.Proofs.Service.Script
import CoachClient.Proofs.Service.Secrets
import CoachClient.Proofs.Service.Sending
import CoachClient.Proofs.Service.SignIn
import CoachClient.Proofs.Service.SignOut
import CoachClient.Proofs.Service.Together
import CoachClient.Proofs.Service.Vouching
import CoachClient.Proofs.Service.Watching
import CoachClient.Proofs.Service.Wording
import CoachClient.Proofs.Service.Yield
import CoachClient.Proofs.Settings.Address
import CoachClient.Proofs.Settings.Authorization
import CoachClient.Proofs.Settings.Environment
import CoachClient.Proofs.Settings.File
import CoachClient.Proofs.Settings.Members
import CoachClient.Proofs.Settings.Reload
import CoachClient.Proofs.Shell.Creation
import CoachClient.Proofs.Shell.Dialogue
import CoachClient.Proofs.Shell.Frame
import CoachClient.Proofs.Shell.Layers
import CoachClient.Proofs.Shell.Persistence
import CoachClient.Proofs.Shell.Program
import CoachClient.Proofs.Shell.Prompt
import CoachClient.Proofs.Shell.Regions
import CoachClient.Proofs.Shell.Run
import CoachClient.Proofs.Shell.Sentence
import CoachClient.Proofs.Shell.SignIn
import CoachClient.Proofs.Shell.SignOut
import CoachClient.Proofs.Shell.SingleCommand
import CoachClient.Proofs.Shell.Words
import CoachClient.Proofs.Success
import CoachClient.Proofs.Text.Decimal
import CoachClient.Proofs.Text.Utf8
import CoachClient.Proofs.Time.Calendar
import CoachClient.Proofs.Time.Wire
import CoachClient.Proofs.Url.Domain
import CoachClient.Proofs.Url.Front
import CoachClient.Proofs.Url.Hierarchy
import CoachClient.Proofs.Url.Path
import CoachClient.Service.Call
import CoachClient.Service.Failure
import CoachClient.Service.Flow
import CoachClient.Service.Operation
import CoachClient.Settings.Basic
import CoachClient.Settings.Environment
import CoachClient.Settings.EnvironmentFile
import CoachClient.Settings.File
import CoachClient.Shell.App
import CoachClient.Shell.Loop
import CoachClient.Shell.Program
import CoachClient.Shell.Typing
import CoachClient.Shell.Words
import CoachClient.Text.Alphanumeric
import CoachClient.Text.Base64
import CoachClient.Text.Blank
import CoachClient.Text.Causes
import CoachClient.Text.Cluster
import CoachClient.Text.Concealed
import CoachClient.Text.Decimal
import CoachClient.Text.Mark
import CoachClient.Text.Parts
import CoachClient.Text.Quoted
import CoachClient.Text.Ranges
import CoachClient.Text.Similarity
import CoachClient.Text.Utf8
import CoachClient.Text.Visible
import CoachClient.Time.Date
import CoachClient.Time.Duration
import CoachClient.Time.Instant
import CoachClient.Time.Reading
import CoachClient.Url.Domain
import CoachClient.Url.Domain.Composition
import CoachClient.Url.Domain.Direction
import CoachClient.Url.Domain.Folding
import CoachClient.Url.Domain.Joining
import CoachClient.Url.Host
import CoachClient.Url.Parse
import CoachClient.Url.Percent
import CoachClient.Url.Punycode
import CoachClient.Url.Reference
import CoachClient.Url.Userinfo
