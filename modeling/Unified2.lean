import Unified2.Frame.Stream
import Unified2.Log.Template
import Unified2.Main
import Unified2.Proofs.BigEndian
import Unified2.Record.Encode
import Unified2.Record.Fields
import Unified2.Session
import Unified2.Proofs.Frame.Grammar
import Unified2.Proofs.Frame.Source
import Unified2.Proofs.Frame.Stream
import Unified2.Proofs.Frame.Sweep
import Unified2.Proofs.Frame.Reading
import Unified2.Proofs.Frame.Mirror
import Unified2.Proofs.Frame.ShortReads
import Unified2.Proofs.File.Reader
import Unified2.Proofs.File.Store
import Unified2.Proofs.Tail
import Unified2.Proofs.Following
import Unified2.Proofs.File.Path
import Unified2.Proofs.Collector
import Unified2.Proofs.Queue.History
import Unified2.Proofs.Page
import Unified2.Proofs.Settings
import Unified2.Proofs.Host
import Unified2.Proofs.Agreement
import Unified2.Proofs.Browsing
import Unified2.Proofs.Text.Numeral
import Unified2.Proofs.Address
import Unified2.Proofs.Record.Layout
import Unified2.Proofs.Record.Remainder
import Unified2.Proofs.Record.Listing
import Unified2.Proofs.Record.Misfit
import Unified2.Proofs.Record.Fields
import Unified2.Proofs.Collecting.Step
import Unified2.Proofs.Collecting.Accounts
import Unified2.Proofs.Collecting.Failure
import Unified2.Proofs.Collecting.LifeCycle
import Unified2.Proofs.Collecting.Resumption
import Unified2.Proofs.Strict
import Unified2.Proofs.File.Loop
import Unified2.Proofs.Collecting.Batches
import Unified2.Proofs.Effort
import Unified2.Proofs.Session
import Unified2.Proofs.Page.Books
import Unified2.Proofs.Skipped
import Unified2.Proofs.Number.Decimal
import Unified2.Proofs.Text.Order
import Unified2.Proofs.Log.Setup
import Unified2.Proofs.Log.Told
import Unified2.Proofs.Capability.Registry
import Unified2.Proofs.Capability.Errand
import Unified2.Proofs.Capability.Loading
import Unified2.Proofs.Capability.Resolving
import Unified2.Proofs.Capability.Configuration
import Unified2.Proofs.Capability.Assembly
import Unified2.Proofs.Capability.Process
import Unified2.Proofs.Capability.Requests
import Unified2.Proofs.Startup
import Unified2.Proofs.Frame.Growth
import Unified2.Proofs.Frame.Gathering
import Unified2.Proofs.Json.Line
import Unified2.ConcurrentCollector
import Unified2.Proofs.ConcurrentCollector
import Unified2.Proofs.Status
import Unified2.Proofs.Concurrent.Step
import Unified2.Proofs.Concurrent.Accounts
import Unified2.Proofs.Concurrent.Simulation
import Unified2.Proofs.Concurrent.LifeCycle
import Unified2.Proofs.Concurrent.Resumption
import Unified2.Proofs.Log.Line
import Unified2.Proofs.Log.Emission
