import IronVault.Util.Run
import IronVault.Observer.Impl.Database
import IronVault.Observer.Impl.Logs

/-!
This module contains what a running observer does besides storing events: it counts them and raises
alerts. The counters live in memory and start again with the process, the alerts are written to the
log of the service.
-/

namespace IronVault.Observer

variable {Pubkey : Type} [DecidableEq Pubkey]

structure Metrics where
  eventsTotal : UInt64
  rpcErrorsTotal : UInt64
  rpcReconnectsTotal : UInt64
  observerSlotLag : Int64
  decodeErrorsTotal : UInt64
  escrowsCreatedTotal : UInt64
  withdrawalsRequestedTotal : UInt64
  withdrawalsExecutedTotal : UInt64
  pausesTotal : UInt64
  deriving DecidableEq

def Metrics.default : Metrics where
  eventsTotal := 0
  rpcErrorsTotal := 0
  rpcReconnectsTotal := 0
  observerSlotLag := 0
  decodeErrorsTotal := 0
  escrowsCreatedTotal := 0
  withdrawalsRequestedTotal := 0
  withdrawalsExecutedTotal := 0
  pausesTotal := 0

inductive Alert (Pubkey : Type) where
  | protocolPaused (flags : UInt32)
  | vaultPaused (vault : Pubkey)
  | largeWithdrawalRequested (request : Pubkey) (amount : UInt64)
  | vaultAuthorityChanged (vault newAuthority : Pubkey)
  | guardianChanged (scope : String) (newGuardian : Pubkey)
  | programUpgradeObserved
  | observerFallingBehind (lag : UInt64)
  deriving DecidableEq

def classifyEvent (largeWithdrawalThreshold : UInt64) : IronVaultEvent Pubkey → Option (Alert Pubkey)
  | .protocolPauseUpdated event =>
    if event.newFlags ≠ 0 then some (.protocolPaused event.newFlags) else none
  | .vaultPauseUpdated event => if event.paused then some (.vaultPaused event.vault) else none
  | .withdrawalRequested event =>
    if largeWithdrawalThreshold ≤ event.amount then
      some (.largeWithdrawalRequested event.withdrawalRequest event.amount)
    else
      none
  | .vaultAuthorityUpdated event => some (.vaultAuthorityChanged event.vault event.newAuthority)
  | _ => none

def Metrics.recordEvent (metrics : Metrics) (event : IronVaultEvent Pubkey) : Metrics :=
  let metrics := { metrics with eventsTotal := metrics.eventsTotal + 1 }
  match event with
  | .escrowCreated _ => { metrics with escrowsCreatedTotal := metrics.escrowsCreatedTotal + 1 }
  | .withdrawalRequested _ =>
    { metrics with withdrawalsRequestedTotal := metrics.withdrawalsRequestedTotal + 1 }
  | .withdrawalExecuted _ =>
    { metrics with withdrawalsExecutedTotal := metrics.withdrawalsExecutedTotal + 1 }
  | .protocolPauseUpdated event =>
    if event.newFlags ≠ 0 then { metrics with pausesTotal := metrics.pausesTotal + 1 } else metrics
  | .vaultPauseUpdated event =>
    if event.paused then { metrics with pausesTotal := metrics.pausesTotal + 1 } else metrics
  | _ => metrics

structure Process (Pubkey : Type) where
  database : Database Pubkey
  metrics : Metrics
  alerts : List (Alert Pubkey)

namespace Process

def initial : Process Pubkey where
  database := .empty
  metrics := .default
  alerts := []

def report (process : Process Pubkey) (largeWithdrawalThreshold : UInt64)
    (observed : ObservedEvent Pubkey) : Process Pubkey :=
  { process with
    metrics := process.metrics.recordEvent observed.event
    alerts := process.alerts ++ (classifyEvent largeWithdrawalThreshold observed.event).toList }

/--
The body of the loop of `process_logs`.
-/
def handle (process : Process Pubkey) (largeWithdrawalThreshold : UInt64) :
    Except DecodeError (ObservedEvent Pubkey) → Except PersistError (Process Pubkey)
  | .ok observed => do
    let (database, inserted) ← process.database.persist observed
    let process := { process with database }
    return if inserted then process.report largeWithdrawalThreshold observed else process
  | .error _ =>
    let metrics := process.metrics
    return { process with
      metrics := { metrics with decodeErrorsTotal := metrics.decodeErrorsTotal + 1 } }

end Process

inductive ProcessAction (Pubkey : Type) where
  | handle (item : Except DecodeError (ObservedEvent Pubkey))
  | connectionEnded
  | reconnected
  | killed (observed : ObservedEvent Pubkey)
  | restarted

/--
One item of a log after the other. The process can be stopped at any time, also in `process_logs`
after the database has committed an event and before it is reported.
-/
inductive ProcessStep (largeWithdrawalThreshold : UInt64) :
    Process Pubkey → ProcessAction Pubkey → Process Pubkey → Prop where
  | handle {p p' : Process Pubkey} {item : Except DecodeError (ObservedEvent Pubkey)}
      (h : p.handle largeWithdrawalThreshold item = .ok p') :
      ProcessStep largeWithdrawalThreshold p (.handle item) p'
  | connectionEnded {p : Process Pubkey} :
      ProcessStep largeWithdrawalThreshold p .connectionEnded
        { p with metrics := { p.metrics with rpcErrorsTotal := p.metrics.rpcErrorsTotal + 1 } }
  | reconnected {p : Process Pubkey} :
      ProcessStep largeWithdrawalThreshold p .reconnected
        { p with metrics := { p.metrics with rpcReconnectsTotal := p.metrics.rpcReconnectsTotal + 1 } }
  | killed {p : Process Pubkey} {observed : ObservedEvent Pubkey} {database : Database Pubkey}
      {inserted : Bool} (h : p.database.persist observed = .ok (database, inserted)) :
      ProcessStep largeWithdrawalThreshold p (.killed observed)
        { p with database, metrics := .default }
  | restarted {p : Process Pubkey} :
      ProcessStep largeWithdrawalThreshold p .restarted { p with metrics := .default }

end IronVault.Observer
