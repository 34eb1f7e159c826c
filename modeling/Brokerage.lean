import Brokerage.Text.Quoted
import Brokerage.Text.Percent
import Brokerage.Text.Form
import Brokerage.Text.Numeral
import Brokerage.Text.Alphanumeric
import Brokerage.Text.Pieces
import Brokerage.Text.Utf8
import Brokerage.Json.Printer
import Brokerage.Json.Reading
import Brokerage.Request.Codec
import Brokerage.Catalog.Codec
import Brokerage.Catalog.Registry
import Brokerage.Store.Call
import Brokerage.Schema.Database
import Brokerage.Address.Basic
import Brokerage.Disk.Basic
import Brokerage.Settings.Basic
import Brokerage.Log.Filter
import Brokerage.Account.Identity
import Brokerage.Account.DatabaseUser
import Brokerage.Broker.Basic
import Brokerage.Broker.Assembly
import Brokerage.Session
import Brokerage.Startup
import Brokerage.Broker.Display
import Brokerage.Broker.Reply
import Brokerage.Legacy.Codec
import Brokerage.Provider.Listing
import Brokerage.Record.Listing
import Brokerage.Main
import Brokerage.Proofs.Keyed
import Brokerage.Proofs.Run
import Brokerage.Proofs.Broker.World
import Brokerage.Proofs.Store.Instances
import Brokerage.Proofs.Store.Bindings
import Brokerage.Proofs.Store.Keys
import Brokerage.Proofs.Broker.Instance
import Brokerage.Proofs.Broker.Binding
import Brokerage.Proofs.Broker.Poll
import Brokerage.Proofs.Broker.Performance
import Brokerage.Proofs.Lifecycle
import Brokerage.Proofs.Creation
import Brokerage.Proofs.Licence
import Brokerage.Proofs.CredentialLedger
import Brokerage.Proofs.Subject
import Brokerage.Proofs.YoungClaims
import Brokerage.Proofs.Orphans
import Brokerage.Proofs.Rollback
import Brokerage.Proofs.Disposal
import Brokerage.Proofs.Broker.Conditions
import Brokerage.Proofs.Reports
import Brokerage.Proofs.Revocation
import Brokerage.Proofs.Ceiling
import Brokerage.Proofs.Integrity
import Brokerage.Proofs.Broker.Upgrade
import Brokerage.Proofs.Fidelity
import Brokerage.Proofs.Broker.Scene
import Brokerage.Proofs.Independence
import Brokerage.Proofs.Store.Effects
import Brokerage.Proofs.Store.History
import Brokerage.Proofs.Store.Turns
import Brokerage.Proofs.Broker.Shared
import Brokerage.Proofs.Permanence
import Brokerage.Proofs.Views
import Brokerage.Proofs.Exclusion
import Brokerage.Proofs.Json.Numerals
import Brokerage.Proofs.Json.Records
import Brokerage.Proofs.Json.RoundTrip
import Brokerage.Proofs.Json.Decoding
import Brokerage.Proofs.RequestLog
import Brokerage.Proofs.Schema.Runs
import Brokerage.Proofs.Schema.Resumption
import Brokerage.Proofs.Schema.Levels
import Brokerage.Proofs.Schema.Reopening
import Brokerage.Proofs.PolicyEdits
import Brokerage.Proofs.Broker.Play
import Brokerage.Proofs.Broker.Failures
import Brokerage.Proofs.Transparency
import Brokerage.Proofs.LegacyPlans
import Brokerage.Proofs.Catalog.Checks
import Brokerage.Proofs.Offers
import Brokerage.Proofs.Account.Grants
import Brokerage.Proofs.Account.Records
import Brokerage.Proofs.Account.Courses
import Brokerage.Proofs.Account.Directory
import Brokerage.Proofs.GrantLimits
import Brokerage.Proofs.Withdrawal
import Brokerage.Proofs.GroundedGrants
import Brokerage.Proofs.Interruption
import Brokerage.Proofs.Broker.Managed
import Brokerage.Proofs.Account.UserCourses
import Brokerage.Proofs.PartialBinds
import Brokerage.Proofs.MergedPolicies
import Brokerage.Proofs.StoredPlans
import Brokerage.Proofs.Account.UserSequence
import Brokerage.Proofs.Account.Databases
import Brokerage.Proofs.UserWithdrawal
import Brokerage.Proofs.Account.FailedWithdrawals
import Brokerage.Proofs.RepeatedUnbinds
import Brokerage.Proofs.Text.Utf8
import Brokerage.Proofs.Text.Percent
import Brokerage.Proofs.Connection
import Brokerage.Proofs.StoredRecords
import Brokerage.Proofs.BoundCredentials
import Brokerage.Proofs.Json.Layouts
import Brokerage.Proofs.Codecs
import Brokerage.Proofs.Catalog.Flaws
import Brokerage.Proofs.Catalog.Routing
import Brokerage.Proofs.Text.Numeral
import Brokerage.Proofs.Configuration
import Brokerage.Proofs.Account.Waiting
