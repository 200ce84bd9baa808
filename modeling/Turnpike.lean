import Turnpike.Address.Ip
import Turnpike.Address.Local
import Turnpike.Address.Socket
import Turnpike.Balance.Endpoint
import Turnpike.Balance.Pool
import Turnpike.Breaker.Compile
import Turnpike.Breaker.Condition
import Turnpike.Breaker.Machine
import Turnpike.Command
import Turnpike.Dictionary
import Turnpike.Entity.Basic
import Turnpike.Entity.Change
import Turnpike.Entity.Document
import Turnpike.Entity.Stored
import Turnpike.Error
import Turnpike.Feed.Classify
import Turnpike.Feed.Layout
import Turnpike.Feed.Reading
import Turnpike.Feed.Snapshot
import Turnpike.Feed.Subscription
import Turnpike.Gate.Chain
import Turnpike.Gate.Limits
import Turnpike.Gate.Pipeline
import Turnpike.Gate.Plaza
import Turnpike.Gate.Probe
import Turnpike.Gate.Retarget
import Turnpike.Http.Header
import Turnpike.Http.Method
import Turnpike.Http.Request
import Turnpike.Http.Response
import Turnpike.Http.Uri
import Turnpike.Json.Reader
import Turnpike.Json.Shape
import Turnpike.Json.Value
import Turnpike.Json.Writer
import Turnpike.Life.Shutdown
import Turnpike.Life.Tracker
import Turnpike.Main
import Turnpike.Metrics
import Turnpike.Number.Binary64
import Turnpike.Number.Shortest
import Turnpike.Proxy.Apply
import Turnpike.Proxy.Basic
import Turnpike.Proxy.Forward
import Turnpike.Proxy.Handle
import Turnpike.Proxy.Headers
import Turnpike.Proxy.Listen
import Turnpike.Regex.Basic
import Turnpike.Regex.CharSet
import Turnpike.Regex.Program
import Turnpike.Regex.Reader
import Turnpike.Regex.Replace
import Turnpike.Route.Compile
import Turnpike.Route.Filter
import Turnpike.Route.Pattern
import Turnpike.Route.Router
import Turnpike.Route.Token
import Turnpike.Route.Trie
import Turnpike.Settings.Basic
import Turnpike.Settings.Load
import Turnpike.Stats
import Turnpike.Store.Basic
import Turnpike.Store.Watch
import Turnpike.Supervisor.Basic
import Turnpike.Supervisor.Running
import Turnpike.Text.Ascii
import Turnpike.Text.Blank
import Turnpike.Text.Category
import Turnpike.Text.Escaped
import Turnpike.Text.Folding
import Turnpike.Text.Lowercase
import Turnpike.Text.Quoted
import Turnpike.Text.Utf8
import Turnpike.Toml.Number
import Turnpike.Toml.Quoted
import Turnpike.Toml.Reader
import Turnpike.Toml.Table
import Turnpike.Traffic.Bucket
import Turnpike.Traffic.Connections
import Turnpike.Traffic.Limiter
import Turnpike.Traffic.Payer
import Turnpike.Url.Host
import Turnpike.Url.Parser
import Turnpike.Url.Punycode
import Turnpike.View.Changes
import Turnpike.View.Figures
import Turnpike.View.Proxies
import Turnpike.View.Settings
import Turnpike.View.Summary
import Turnpike.Proofs.Route.Spelling
import Turnpike.Proofs.Route.Trie
import Turnpike.Proofs.Route.Search
import Turnpike.Proofs.Route.Table
import Turnpike.Proofs.Route.Lookup
import Turnpike.Proofs.Route.Precedence
import Turnpike.Proofs.Route.Order
import Turnpike.Proofs.Dictionary
import Turnpike.Proofs.Store.Log
import Turnpike.Proofs.Store.Watch
import Turnpike.Proofs.Balance.Pool
import Turnpike.Proofs.Proxy.Integrity
import Turnpike.Proofs.Proxy.Failure
import Turnpike.Proofs.Proxy.Answer
import Turnpike.Proofs.Proxy.Salvage
import Turnpike.Proofs.Feed.Layout
import Turnpike.Proofs.Feed.Replay
import Turnpike.Proofs.Feed.Restart
import Turnpike.Proofs.Supervisor.Generation
import Turnpike.Proofs.Store.Listing
import Turnpike.Proofs.Gate.Passage
import Turnpike.Proofs.Gate.Slots
import Turnpike.Proofs.Gate.Plaza
import Turnpike.Proofs.Breaker.Timing
import Turnpike.Proofs.Traffic.Bucket
import Turnpike.Proofs.Traffic.Probing
import Turnpike.Proofs.Traffic.Waiting
import Turnpike.Proofs.Traffic.Limiter
import Turnpike.Proofs.Traffic.Idling
import Turnpike.Proofs.Proxy.Traffic
import Turnpike.Proofs.Proxy.Account
import Turnpike.Proofs.Gate.Visit
import Turnpike.Proofs.Gate.Likeness
import Turnpike.Proofs.Proxy.Session
import Turnpike.Proofs.Proxy.Repeat
import Turnpike.Proofs.Supervisor.Course
import Turnpike.Proofs.Supervisor.Stage
import Turnpike.Proofs.Supervisor.Restarts
import Turnpike.Proofs.Gate.Retry
import Turnpike.Proofs.Route.Rows
import Turnpike.Proofs.Route.Paths
import Turnpike.Proofs.Route.Scanning
import Turnpike.Proofs.Route.Grammar
import Turnpike.Proofs.Route.Canonical
import Turnpike.Proofs.Route.Printing
import Turnpike.Proofs.Feed.Agreement
import Turnpike.Proofs.Route.Hosts
import Turnpike.Proofs.Traffic.Payer
import Turnpike.Proofs.Feed.Keys
import Turnpike.Proofs.Feed.KeyOrder
import Turnpike.Proofs.Proxy.Frame
import Turnpike.Proofs.Proxy.Handover
import Turnpike.Proofs.Gate.Roster
import Turnpike.Proofs.Proxy.Origin
import Turnpike.Proofs.Breaker.Grammar
import Turnpike.Proofs.Balance.History
import Turnpike.Proofs.Balance.Turns
import Turnpike.Proofs.Json.RoundTrip
import Turnpike.Proofs.Entity.Stored
import Turnpike.Proofs.Feed.Decoding
import Turnpike.Proofs.Route.Nodes
