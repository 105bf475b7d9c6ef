import SearchStore.Client.Session
import SearchStore.Connection
import SearchStore.Failure
import SearchStore.Handle.Basic
import SearchStore.Handle.Invoke
import SearchStore.Host.Address
import SearchStore.Host.Descriptor
import SearchStore.Host.Percent
import SearchStore.Host.Url
import SearchStore.Json
import SearchStore.Log.Event
import SearchStore.Log.Journal
import SearchStore.Log.Record
import SearchStore.Log.Template
import SearchStore.Number.Binary64
import SearchStore.Number.Literal
import SearchStore.Number.Shortest
import SearchStore.Proofs.Action
import SearchStore.Proofs.Arguments
import SearchStore.Proofs.Client.Alike
import SearchStore.Proofs.Client.Calls
import SearchStore.Proofs.Client.Ledger
import SearchStore.Proofs.Client.Records
import SearchStore.Proofs.Client.Script
import SearchStore.Proofs.Connection.Lending
import SearchStore.Proofs.Connection.Ownership
import SearchStore.Proofs.Connection.Probe
import SearchStore.Proofs.Handle.Address
import SearchStore.Proofs.Handle.Bulk
import SearchStore.Proofs.Handle.Containment
import SearchStore.Proofs.Handle.Failures
import SearchStore.Proofs.Handle.Forms
import SearchStore.Proofs.Handle.Inquiry
import SearchStore.Proofs.Handle.Options
import SearchStore.Proofs.Handle.Outcome
import SearchStore.Proofs.Handle.Raw
import SearchStore.Proofs.Handle.Script
import SearchStore.Proofs.Handle.Selection
import SearchStore.Proofs.Handle.Untyped
import SearchStore.Proofs.Handle.Validation
import SearchStore.Proofs.Host.Endpoint
import SearchStore.Proofs.Host.Percent
import SearchStore.Proofs.Host.Readable
import SearchStore.Proofs.Host.Secure
import SearchStore.Proofs.Host.Url
import SearchStore.Proofs.Json
import SearchStore.Proofs.Log.Journal
import SearchStore.Proofs.Log.Template
import SearchStore.Proofs.Number.Rounding
import SearchStore.Proofs.Query.Composition
import SearchStore.Proofs.Query.Conditions
import SearchStore.Proofs.Query.Elements
import SearchStore.Proofs.Query.Nesting
import SearchStore.Proofs.Query.Orders
import SearchStore.Proofs.Query.Slots
import SearchStore.Proofs.Query.Window
import SearchStore.Proofs.Reading
import SearchStore.Proofs.Registry.Names
import SearchStore.Proofs.Registry.Period
import SearchStore.Proofs.Registry.Schedule
import SearchStore.Proofs.Registry.Steps
import SearchStore.Proofs.Result.Documents
import SearchStore.Proofs.Result.Listing
import SearchStore.Proofs.Result.Misread
import SearchStore.Proofs.Result.Pages
import SearchStore.Proofs.Result.Paging
import SearchStore.Proofs.Settings.Clients
import SearchStore.Proofs.Settings.Layers
import SearchStore.Proofs.Settings.Override
import SearchStore.Proofs.Settings.Precedence
import SearchStore.Proofs.Settings.RoundTrip
import SearchStore.Proofs.Store.Administration
import SearchStore.Proofs.Store.Alike
import SearchStore.Proofs.Store.Eviction
import SearchStore.Proofs.Store.Handles
import SearchStore.Proofs.Store.Idle
import SearchStore.Proofs.Store.Lifecycle
import SearchStore.Proofs.Store.Listing
import SearchStore.Proofs.Store.Reconfiguration
import SearchStore.Proofs.Store.Release
import SearchStore.Proofs.Store.Service
import SearchStore.Proofs.Store.Serving
import SearchStore.Proofs.Store.Spelling
import SearchStore.Proofs.Store.Starting
import SearchStore.Proofs.Text.Lowering
import SearchStore.Proofs.Text.Splitting
import SearchStore.Proofs.Value.Entries
import SearchStore.Proofs.Value.Keys
import SearchStore.Proofs.Value.Merging
import SearchStore.Proofs.Value.Overlay
import SearchStore.Proofs.Value.Writes
import SearchStore.Query.Bulk
import SearchStore.Query.Find
import SearchStore.Reading
import SearchStore.Registry
import SearchStore.Result.Listing
import SearchStore.Settings.Basic
import SearchStore.Settings.EnvFile
import SearchStore.Settings.Sources
import SearchStore.Settings.Variables
import SearchStore.Store.Basic
import SearchStore.Store.Command
import SearchStore.Store.Indexes
import SearchStore.Text.Blank
import SearchStore.Text.LetterCase
import SearchStore.Text.Printable
import SearchStore.Value.Access
import SearchStore.Value.Basic
import SearchStore.Value.Entries
import SearchStore.Value.Text
import SearchStore.Yaml.Block
import SearchStore.Yaml.Flow
import SearchStore.Yaml.Scalar
