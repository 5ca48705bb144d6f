import GuardedDispatch.CommandLine
import GuardedDispatch.Config.Configuration
import GuardedDispatch.Config.Placeholder
import GuardedDispatch.Config.Policies
import GuardedDispatch.Config.Schema
import GuardedDispatch.Config.Setting
import GuardedDispatch.Connector.Backend
import GuardedDispatch.Connector.Basic
import GuardedDispatch.Connector.Call
import GuardedDispatch.Connector.Closing
import GuardedDispatch.Connector.Failure
import GuardedDispatch.Connector.Health
import GuardedDispatch.Connector.Metrics
import GuardedDispatch.Connector.Mock
import GuardedDispatch.Connector.Probe
import GuardedDispatch.Connector.Status
import GuardedDispatch.Dispatch.Basic
import GuardedDispatch.Dispatch.Registry
import GuardedDispatch.Intake.Connector
import GuardedDispatch.Intake.Message
import GuardedDispatch.Intake.Policy
import GuardedDispatch.Intake.Processing
import GuardedDispatch.Json.Access
import GuardedDispatch.Json.Layout
import GuardedDispatch.Json.Reader
import GuardedDispatch.Json.Value
import GuardedDispatch.Json.Writer
import GuardedDispatch.Main
import GuardedDispatch.Message.ConnectorType
import GuardedDispatch.Message.Context
import GuardedDispatch.Message.Envelope
import GuardedDispatch.Message.GraphQuery
import GuardedDispatch.Message.Http
import GuardedDispatch.Message.Log
import GuardedDispatch.Message.Queue
import GuardedDispatch.Number.Binary
import GuardedDispatch.Number.Decimal
import GuardedDispatch.Number.Rounding
import GuardedDispatch.Number.Shortest
import GuardedDispatch.Policy.Backoff
import GuardedDispatch.Policy.Breaker
import GuardedDispatch.Policy.Breaker.Window
import GuardedDispatch.Policy.Bulkhead
import GuardedDispatch.Policy.CircuitState
import GuardedDispatch.Policy.Failure
import GuardedDispatch.Policy.RateLimiter
import GuardedDispatch.Policy.Rehearsal
import GuardedDispatch.Policy.Retry
import GuardedDispatch.Policy.Stack
import GuardedDispatch.Policy.TimeLimiter
import GuardedDispatch.Processing.Context
import GuardedDispatch.Processing.Diagnostic
import GuardedDispatch.Processing.Pipeline
import GuardedDispatch.Processing.Rehearsal
import GuardedDispatch.Processing.RetrySnapshot
import GuardedDispatch.Processing.Stage
import GuardedDispatch.Processing.Trail
import GuardedDispatch.Proofs.Backoff.ZeroWait
import GuardedDispatch.Proofs.Breaker.Closed
import GuardedDispatch.Proofs.Breaker.Generations
import GuardedDispatch.Proofs.Breaker.HalfOpen
import GuardedDispatch.Proofs.Breaker.Healthy
import GuardedDispatch.Proofs.Breaker.Ledger
import GuardedDispatch.Proofs.Breaker.Operations
import GuardedDispatch.Proofs.Breaker.Owed
import GuardedDispatch.Proofs.Breaker.Reigns
import GuardedDispatch.Proofs.Breaker.Settings
import GuardedDispatch.Proofs.Breaker.Stale
import GuardedDispatch.Proofs.Breaker.Standstill
import GuardedDispatch.Proofs.Breaker.Waiting
import GuardedDispatch.Proofs.Breaker.Window
import GuardedDispatch.Proofs.Bulkhead.Admission
import GuardedDispatch.Proofs.Bulkhead.Callers
import GuardedDispatch.Proofs.Config.Endpoints
import GuardedDispatch.Proofs.Config.Expansion
import GuardedDispatch.Proofs.Config.Limits
import GuardedDispatch.Proofs.Config.ReadBack
import GuardedDispatch.Proofs.Config.Sections
import GuardedDispatch.Proofs.Connector.Accounts
import GuardedDispatch.Proofs.Connector.Chronicle
import GuardedDispatch.Proofs.Connector.Draining
import GuardedDispatch.Proofs.Connector.Dropped
import GuardedDispatch.Proofs.Connector.Exposition
import GuardedDispatch.Proofs.Connector.Life
import GuardedDispatch.Proofs.Connector.Noted
import GuardedDispatch.Proofs.Connector.Override
import GuardedDispatch.Proofs.Connector.Returning
import GuardedDispatch.Proofs.Connector.RootCause
import GuardedDispatch.Proofs.Connector.Scraping
import GuardedDispatch.Proofs.Connector.Steps
import GuardedDispatch.Proofs.Connector.Traffic
import GuardedDispatch.Proofs.Dispatch.Custody
import GuardedDispatch.Proofs.Dispatch.Errors
import GuardedDispatch.Proofs.Dispatch.Events
import GuardedDispatch.Proofs.Dispatch.Noted
import GuardedDispatch.Proofs.Dispatch.Ownership
import GuardedDispatch.Proofs.Dispatch.Routing
import GuardedDispatch.Proofs.Dispatch.Steps
import GuardedDispatch.Proofs.Dispatch.Tenure
import GuardedDispatch.Proofs.Lists
import GuardedDispatch.Proofs.Message.Acceptance
import GuardedDispatch.Proofs.Message.Fields
import GuardedDispatch.Proofs.Message.ReadBack
import GuardedDispatch.Proofs.Number.Rounding
import GuardedDispatch.Proofs.Pipeline.Attempts
import GuardedDispatch.Proofs.Pipeline.Bouts
import GuardedDispatch.Proofs.Pipeline.Payloads
import GuardedDispatch.Proofs.Pipeline.Record
import GuardedDispatch.Proofs.Pipeline.Settlement
import GuardedDispatch.Proofs.Pipeline.Steps
import GuardedDispatch.Proofs.Pipeline.Workload
import GuardedDispatch.Proofs.Processing.AppendOnly
import GuardedDispatch.Proofs.Processing.Derivations
import GuardedDispatch.Proofs.Processing.Identity
import GuardedDispatch.Proofs.RateLimiter.Asking
import GuardedDispatch.Proofs.RateLimiter.Looking
import GuardedDispatch.Proofs.RateLimiter.Periods
import GuardedDispatch.Proofs.RateLimiter.Turnstile
import GuardedDispatch.Proofs.Stack.Balance
import GuardedDispatch.Proofs.Stack.Coherence
import GuardedDispatch.Proofs.Stack.Counters
import GuardedDispatch.Proofs.Stack.Crowd
import GuardedDispatch.Proofs.Stack.Cutoffs
import GuardedDispatch.Proofs.Stack.Diary
import GuardedDispatch.Proofs.Stack.Gates
import GuardedDispatch.Proofs.Stack.Names
import GuardedDispatch.Proofs.Stack.Preparations
import GuardedDispatch.Proofs.Stack.Renamed
import GuardedDispatch.Proofs.Stack.Retrial
import GuardedDispatch.Proofs.Stack.Retries
import GuardedDispatch.Proofs.Stack.Seats
import GuardedDispatch.Proofs.Stack.Standing
import GuardedDispatch.Proofs.Stack.Statistics
import GuardedDispatch.Proofs.Stack.Stay
import GuardedDispatch.Proofs.Stack.Steps
import GuardedDispatch.Proofs.Stack.Tally
import GuardedDispatch.Proofs.Text.Mentions
import GuardedDispatch.Proofs.Yaml.Scalars
import GuardedDispatch.Schedule
import GuardedDispatch.Text.Blank
import GuardedDispatch.Text.Concealed
import GuardedDispatch.Text.Dictionary
import GuardedDispatch.Text.Elapsed
import GuardedDispatch.Text.Quoted
import GuardedDispatch.View.Config
import GuardedDispatch.View.Connector
import GuardedDispatch.View.Message
import GuardedDispatch.View.Policy
import GuardedDispatch.View.Processing
import GuardedDispatch.Yaml.Cursor
import GuardedDispatch.Yaml.Document
import GuardedDispatch.Yaml.Meaning
import GuardedDispatch.Yaml.Node
import GuardedDispatch.Yaml.Scalar
import GuardedDispatch.Yaml.Token
import GuardedDispatch.Yaml.Token.Lexer
import GuardedDispatch.Yaml.Token.Property
import GuardedDispatch.Yaml.Writer
