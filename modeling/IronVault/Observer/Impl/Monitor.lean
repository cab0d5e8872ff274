import IronVault.Util.Borsh
import IronVault.Observer.Impl.Process
import IronVault.Observer.Impl.Sync

/-!
This module contains the second task of the observer, `monitor_rpc_slot`: it keeps the finalized slot
of the node, raises an alert when the observer falls behind, and watches the slot in which the program
was deployed.
-/

namespace IronVault.Observer

variable {Pubkey : Type}

inductive RpcError where
  | requestFailed
  | rpcFailed (method : String) (error : Text)
  | omittedResult (method : String)
  | accountDoesNotExist
  | unexpectedEncoding
  | invalidBase64
  | invalidProgram
  | invalidProgramData
  deriving DecidableEq, Repr

structure RpcEnvelope (α : Type) where
  result : Option α
  error : Option Text

structure AccountInfoValue where
  data : Text × Text

structure AccountInfoResult where
  value : Option AccountInfoValue

/-- No envelope is a request that was not answered. -/
abbrev RpcResponse (α : Type) : Type := Option (RpcEnvelope α)

def RpcResponse.read {α : Type} (response : RpcResponse α) (method : String) :
    Except RpcError (Option α) := do
  let envelope ← fetch response .requestFailed
  match envelope.error with
  | some error => throw (.rpcFailed method error)
  | none => return envelope.result

def getSlot (response : RpcResponse UInt64) : Except RpcError UInt64 := do
  let result ← response.read "getSlot"
  fetch result (.omittedResult "getSlot")

/--
What the task runs with, and what it takes from the libraries for base58 and base64.
-/
structure MonitorSettings where
  programId : Text
  maxReadySlotLag : UInt64
  bs58 : List UInt8 → Text
  standard : Text → Option (List UInt8)

namespace MonitorSettings

def fetchAccountData (settings : MonitorSettings) (response : RpcResponse AccountInfoResult) :
    Except RpcError (List UInt8) := do
  let result ← response.read "getAccountInfo"
  let account ← fetch (result.bind AccountInfoResult.value) .accountDoesNotExist
  require (account.data.2 = "base64".toList) .unexpectedEncoding
  fetch (settings.standard account.data.1) .invalidBase64

/--
The two requests are answered one after the other.
-/
def fetchDeploymentSlot (settings : MonitorSettings)
    (getProgram getProgramData : Text → RpcResponse AccountInfoResult) : Except RpcError UInt64 := do
  let program ← settings.fetchAccountData (getProgram settings.programId)
  require (36 ≤ program.length ∧ Borsh.ofLittleEndian (program.take 4) = 2) .invalidProgram
  let programDataAddress := settings.bs58 ((program.drop 4).take 32)
  let programData ← settings.fetchAccountData (getProgramData programDataAddress)
  require (12 ≤ programData.length ∧ Borsh.ofLittleEndian (programData.take 4) = 3)
    .invalidProgramData
  return UInt64.ofNat (Borsh.ofLittleEndian ((programData.drop 4).take 8))

end MonitorSettings

structure Monitor (Pubkey : Type) where
  status : SyncStatus
  metrics : Metrics
  alerts : List (Alert Pubkey)
  deploymentSlot : Option UInt64
  -- The finalized slot is refreshed and the program is inspected next.
  inspecting : Bool

namespace Monitor

def initial : Monitor Pubkey where
  status := .default
  metrics := .default
  alerts := []
  deploymentSlot := none
  inspecting := false

def countError (monitor : Monitor Pubkey) : Monitor Pubkey :=
  { monitor with
    metrics := { monitor.metrics with rpcErrorsTotal := monitor.metrics.rpcErrorsTotal + 1 } }

/--
The first half of the loop.
-/
def refresh (monitor : Monitor Pubkey) (settings : MonitorSettings) :
    Except RpcError UInt64 → Monitor Pubkey
  | .ok slot =>
    let status := monitor.status.monitored slot
    let lag := status.lag
    { monitor with
      status
      metrics := { monitor.metrics with observerSlotLag := lag.toInt64 }
      alerts :=
        if lag > settings.maxReadySlotLag then
          monitor.alerts ++ [.observerFallingBehind lag]
        else
          monitor.alerts
      inspecting := true }
  | .error _ => monitor.countError

/--
The second half of the loop.
-/
def inspect (monitor : Monitor Pubkey) : Except RpcError UInt64 → Monitor Pubkey
  | .ok current =>
    { monitor with
      alerts :=
        if monitor.deploymentSlot.any (· ≠ current) then
          monitor.alerts ++ [.programUpgradeObserved]
        else
          monitor.alerts
      deploymentSlot := some current
      inspecting := false }
  | .error _ => { monitor.countError with inspecting := false }

end Monitor

/--
The program in the accounts of the upgradeable loader. The address of the program data never changes.
-/
structure DeployedProgram where
  programDataAddress : Vector UInt8 32
  slot : UInt64
  -- The upgrade authority and the code.
  rest : List UInt8

def DeployedProgram.programAccount (program : DeployedProgram) : List UInt8 :=
  Borsh.serialize (2 : UInt32) ++ program.programDataAddress.toList

def DeployedProgram.programDataAccount (program : DeployedProgram) : List UInt8 :=
  Borsh.serialize (3 : UInt32) ++ (Borsh.serialize program.slot ++ program.rest)

/--
The node fails or answers with the bytes of the account.
-/
def MonitorSettings.Truthful (settings : MonitorSettings) (response : RpcResponse AccountInfoResult)
    (account : List UInt8) : Prop :=
  ∀ data, settings.fetchAccountData response = .ok data → data = account

structure MonitorWorld (Pubkey : Type) where
  program : DeployedProgram
  monitor : Monitor Pubkey

inductive MonitorAction where
  | upgrade
  | observer
  | refresh (result : Except RpcError UInt64)
  | inspect (result : Except RpcError UInt64)
  | restart

/--
The task next to the chain and to the rest of the observer, which shares the status and the counters.
A step `inspect` stands where the node answers the second request.
-/
inductive MonitorStep (settings : MonitorSettings) :
    MonitorWorld Pubkey → MonitorAction → MonitorWorld Pubkey → Prop where
  | upgrade {w : MonitorWorld Pubkey} {slot : UInt64} {rest : List UInt8}
      (hslot : w.program.slot < slot) :
      MonitorStep settings w .upgrade { w with program := { w.program with slot, rest } }
  | observer {w : MonitorWorld Pubkey} {status : SyncStatus} {metrics : Metrics}
      (hlag : metrics.observerSlotLag = w.monitor.metrics.observerSlotLag) :
      MonitorStep settings w .observer { w with monitor := { w.monitor with status, metrics } }
  | refresh {w : MonitorWorld Pubkey} {response : RpcResponse UInt64}
      (hloop : w.monitor.inspecting = false) :
      MonitorStep settings w (.refresh (getSlot response))
        { w with monitor := w.monitor.refresh settings (getSlot response) }
  | inspect {w : MonitorWorld Pubkey} {getProgram getProgramData : Text → RpcResponse AccountInfoResult}
      (hloop : w.monitor.inspecting = true)
      (hprogram : settings.Truthful (getProgram settings.programId) w.program.programAccount)
      (hprogramData : settings.Truthful
        (getProgramData (settings.bs58 w.program.programDataAddress.toList))
        w.program.programDataAccount) :
      MonitorStep settings w (.inspect (settings.fetchDeploymentSlot getProgram getProgramData))
        { w with
          monitor := w.monitor.inspect (settings.fetchDeploymentSlot getProgram getProgramData) }
  -- The alerts are in the log of the service and stay there.
  | restart {w : MonitorWorld Pubkey} :
      MonitorStep settings w .restart
        { w with monitor := { Monitor.initial with alerts := w.monitor.alerts } }

end IronVault.Observer
