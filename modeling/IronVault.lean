import IronVault.Util.Checked
import IronVault.Util.Run
import IronVault.Util.Window
import IronVault.Program.Basic
import IronVault.Program.Impl.Accounts
import IronVault.Program.Impl.Protocol
import IronVault.Program.Impl.Escrow
import IronVault.Program.Impl.Vault
import IronVault.Program.Impl.Asset
import IronVault.Program.Impl.Withdrawal
import IronVault.Program.Impl.Step
import IronVault.Program.Lemmas.Accounts
import IronVault.Program.Lemmas.Protocol
import IronVault.Program.Lemmas.Escrow
import IronVault.Program.Lemmas.Vault
import IronVault.Program.Lemmas.Asset
import IronVault.Program.Lemmas.Withdrawal
import IronVault.Program.Lemmas.Step
import IronVault.Program.Lemmas.WellFormed
import IronVault.Program.Lemmas.Authority
import IronVault.Program.Lemmas.Window
import IronVault.Program.Lemmas.Ledger
import IronVault.Program.Lemmas.Custody
import IronVault.Program.Lemmas.Request
import IronVault.Program.Lemmas.Numbering
import IronVault.Program.Lemmas.Success
import IronVault.Program.Lemmas.Failure
import IronVault.Program.Symbolic
import IronVault.Program.Aliasing
import IronVault.Program.Authorization
import IronVault.Program.EscrowLifecycle
import IronVault.Program.Timelock
import IronVault.Program.Window
import IronVault.Program.Recovery
import IronVault.Program.Rotation
import IronVault.Program.Refund
import IronVault.Program.Privilege
import IronVault.Program.Guardian
import IronVault.Program.Pause
import IronVault.Program.Isolation
import IronVault.Program.Policy
import IronVault.Program.Replay
import IronVault.Util.Counter
import IronVault.Program.SpendLog
import IronVault.Program.Audit
import IronVault.Util.Related
import IronVault.Program.Impl.Locks
import IronVault.Program.Lemmas.Similar
import IronVault.Program.Lemmas.TwoRuns
import IronVault.Program.PauseScope
import IronVault.Util.Schedule
import IronVault.Program.Lemmas.Frame
import IronVault.Program.Schedule
import IronVault.Program.RoleTrace
import IronVault.Program.Acceptance
import IronVault.Util.Register
import IronVault.Observer.Basic
import IronVault.Observer.Impl.Database
import IronVault.Util.Text
import IronVault.Observer.Impl.Logs
import IronVault.Observer.Impl.Rpc
import IronVault.Observer.Impl.Sync
import IronVault.Observer.Lemmas.Logs
import IronVault.Observer.Lemmas.Database
import IronVault.Observer.Lemmas.Projection
import IronVault.Observer.Lemmas.Chain
import IronVault.Util.Paging
import IronVault.Observer.Lemmas.Rpc
import IronVault.Observer.Segment
import IronVault.Observer.Impl.Process
import IronVault.Observer.Reporting
import IronVault.Observer.ReadModel
import IronVault.Observer.DeliveryOrder
import IronVault.Observer.Reconcile
import IronVault.Observer.Freshness
import IronVault.Observer.Readiness
import IronVault.Observer.Impl.Monitor
import IronVault.Observer.Monitoring
import IronVault.Observer.Redelivery
import IronVault.Util.Borsh
import IronVault.Program.Impl.Codec
import IronVault.Observer.Impl.Events
import IronVault.Observer.Codec
import IronVault.Observer.Impl.Schema
import IronVault.Observer.Ingest
import IronVault.Observer.Transcript
import IronVault.Observer.Lemmas.Transcript
import IronVault.Observer.Attribution
import IronVault.Observer.Positions
import IronVault.Observer.EventIds
import IronVault.Util.Double
import IronVault.Program.Impl.Layout
import IronVault.Program.Impl.Seeds
import IronVault.Program.Lemmas.Seeds
import IronVault.Client.Basic
import IronVault.Client.Impl.Encoding
import IronVault.Client.Impl.Events
import IronVault.Client.Impl.Pdas
import IronVault.Client.Impl.Client
import IronVault.Client.Impl.Entrypoint
import IronVault.Client.Impl.Session
import IronVault.Client.Impl.Dispatch
import IronVault.Client.Impl.Cli
import IronVault.Client.Lemmas.Encoding
import IronVault.Client.Lemmas.Fetch
import IronVault.Client.Lemmas.Entrypoint
import IronVault.Program.Impl.Raw
import IronVault.Client.Layout
import IronVault.Client.Arguments
import IronVault.Client.EscrowActions
import IronVault.Client.Symbolic
import IronVault.Program.Bytes
import IronVault.Client.WithdrawalIds
import IronVault.Client.Seeds
import IronVault.Client.Lemmas.Dispatch
import IronVault.Client.Receipts
import IronVault.Client.Lemmas.Cli
import IronVault.Client.CommandLine
import IronVault.Client.EventReaders
