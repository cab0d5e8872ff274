import IronVault.Program.Lemmas.WellFormed
import IronVault.Program.Symbolic

/-!
This module contains that the log of the program is complete: what the accounts say, apart from the
window counters and the tokens, can be read off the events alone. `Published` is what can be read
off, `Published.replay` reads one more event.
-/

namespace IronVault

variable {Pubkey : Type} [DecidableEq Pubkey] [Solana Pubkey]

open Solana

namespace Published

structure Config (Pubkey : Type) where
  admin : Pubkey
  guardian : Pubkey
  pauseFlags : UInt32

structure Escrow (Pubkey : Type) where
  maker : Pubkey
  recipient : Pubkey
  mint : Pubkey
  escrowId : UInt64
  amount : UInt64
  createdAt : Int64
  expiresAt : Int64
  status : EscrowStatus

structure Vault (Pubkey : Type) where
  namespaceAuthority : Pubkey
  authority : Pubkey
  guardian : Pubkey
  vaultId : UInt64
  nextWithdrawalId : UInt64
  paused : Bool

structure Role (Pubkey : Type) where
  vault : Pubkey
  principal : Pubkey
  permissions : UInt64
  active : Bool

structure Asset (Pubkey : Type) where
  vault : Pubkey
  mint : Pubkey
  tokenProgram : Pubkey
  policy : Policy

structure Request (Pubkey : Type) where
  vault : Pubkey
  vaultAsset : Pubkey
  mint : Pubkey
  tokenProgram : Option Pubkey
  proposer : Pubkey
  recipientOwner : Pubkey
  recipientTokenAccount : Pubkey
  withdrawalId : UInt64
  amount : UInt64
  createdAt : Int64
  executeAfter : Int64
  expiresAt : Int64
  status : WithdrawalStatus

end Published

structure Published (Pubkey : Type) where
  config : Pubkey → Option (Published.Config Pubkey)
  escrow : Pubkey → Option (Published.Escrow Pubkey)
  vault : Pubkey → Option (Published.Vault Pubkey)
  role : Pubkey → Option (Published.Role Pubkey)
  asset : Pubkey → Option (Published.Asset Pubkey)
  request : Pubkey → Option (Published.Request Pubkey)

def ProtocolConfig.published (config : ProtocolConfig Pubkey) : Published.Config Pubkey where
  admin := config.admin
  guardian := config.guardian
  pauseFlags := config.pauseFlags

def Escrow.published (escrow : Escrow Pubkey) : Published.Escrow Pubkey where
  maker := escrow.maker
  recipient := escrow.recipient
  mint := escrow.mint
  escrowId := escrow.escrowId
  amount := escrow.amount
  createdAt := escrow.createdAt
  expiresAt := escrow.expiresAt
  status := escrow.status

def Vault.published (vault : Vault Pubkey) : Published.Vault Pubkey where
  namespaceAuthority := vault.namespaceAuthority
  authority := vault.authority
  guardian := vault.guardian
  vaultId := vault.vaultId
  nextWithdrawalId := vault.nextWithdrawalId
  paused := vault.paused

def RoleAssignment.published (role : RoleAssignment Pubkey) : Published.Role Pubkey where
  vault := role.vault
  principal := role.principal
  permissions := role.permissions
  active := role.active

def VaultAsset.published (asset : VaultAsset Pubkey) : Published.Asset Pubkey where
  vault := asset.vault
  mint := asset.mint
  tokenProgram := asset.tokenProgram
  policy := asset.policy

def WithdrawalRequest.published (request : WithdrawalRequest Pubkey) : Published.Request Pubkey where
  vault := request.vault
  vaultAsset := request.vaultAsset
  mint := request.mint
  tokenProgram := some request.tokenProgram
  proposer := request.proposer
  recipientOwner := request.recipientOwner
  recipientTokenAccount := request.recipientTokenAccount
  withdrawalId := request.withdrawalId
  amount := request.amount
  createdAt := request.createdAt
  executeAfter := request.executeAfter
  expiresAt := request.expiresAt
  status := request.status

def State.published (s : State Pubkey) : Published Pubkey where
  config := Option.map ProtocolConfig.published ∘ s.protocolConfig
  escrow := Option.map Escrow.published ∘ s.escrow
  vault := Option.map Vault.published ∘ s.vault
  role := Option.map RoleAssignment.published ∘ s.roleAssignment
  asset := Option.map VaultAsset.published ∘ s.vaultAsset
  request := Option.map WithdrawalRequest.published ∘ s.withdrawalRequest

def modify {β : Type} (m : Pubkey → Option β) (k : Pubkey) (f : β → β) : Pubkey → Option β :=
  Function.update m k ((m k).map f)

def registrationPolicy : Policy where
  maxPerTransaction := u64Max
  windowLimit := u64Max
  windowSeconds := 0
  timelockThreshold := u64Max
  timelockSeconds := 0
  requestExecutionWindowSeconds := 0

def VaultLimitsUpdated.policy (event : VaultLimitsUpdated Pubkey) : Policy where
  maxPerTransaction := event.maxPerTransaction
  windowLimit := event.windowLimit
  windowSeconds := event.windowSeconds
  timelockThreshold := event.timelockThreshold
  timelockSeconds := event.timelockSeconds
  requestExecutionWindowSeconds := event.requestExecutionWindowSeconds

/--
The token program of a request is the only term that its event leaves out. It is the one of the
asset.
-/
def WithdrawalRequested.request (event : WithdrawalRequested Pubkey) (p : Published Pubkey) :
    Published.Request Pubkey where
  vault := event.vault
  vaultAsset := event.vaultAsset
  mint := event.mint
  tokenProgram := (p.asset event.vaultAsset).map (·.tokenProgram)
  proposer := event.proposer
  recipientOwner := event.recipientOwner
  recipientTokenAccount := event.recipientTokenAccount
  withdrawalId := event.withdrawalId
  amount := event.amount
  createdAt := event.createdAt
  executeAfter := event.executeAfter
  expiresAt := event.expiresAt
  status := .pending

namespace Published

def empty : Published Pubkey where
  config _ := none
  escrow _ := none
  vault _ := none
  role _ := none
  asset _ := none
  request _ := none

def replay (p : Published Pubkey) : IronVaultEvent Pubkey → Published Pubkey
  | .protocolInitialized e =>
    { p with config := Function.update p.config e.protocolConfig (some ⟨e.admin, e.guardian, 0⟩) }
  | .protocolPauseUpdated e =>
    { p with config := modify p.config e.protocolConfig ({ · with pauseFlags := e.newFlags }) }
  | .escrowCreated e =>
    let escrow : Escrow Pubkey := ⟨e.maker, e.recipient, e.mint, e.escrowId, e.amount, e.createdAt,
      e.expiresAt, .funded⟩
    { p with escrow := Function.update p.escrow e.escrow (some escrow) }
  | .escrowReleased e => { p with escrow := modify p.escrow e.escrow ({ · with status := .released }) }
  | .escrowRefunded e => { p with escrow := modify p.escrow e.escrow ({ · with status := .refunded }) }
  | .vaultCreated e =>
    let vault : Vault Pubkey := ⟨e.namespaceAuthority, e.authority, e.guardian, e.vaultId, 0, false⟩
    { p with vault := Function.update p.vault e.vault (some vault) }
  | .vaultAuthorityUpdated e =>
    { p with vault := modify p.vault e.vault ({ · with authority := e.newAuthority }) }
  | .vaultPauseUpdated e => { p with vault := modify p.vault e.vault ({ · with paused := e.paused }) }
  | .vaultAssetRegistered e =>
    let asset : Asset Pubkey := ⟨e.vault, e.mint, e.tokenProgram, registrationPolicy⟩
    { p with asset := Function.update p.asset e.vaultAsset (some asset) }
  | .vaultDeposit _ => p
  | .vaultWithdrawal _ => p
  | .roleGranted e =>
    let role : Role Pubkey := ⟨e.vault, e.principal, e.permissions, true⟩
    { p with role := Function.update p.role (address (.role e.vault e.principal)) (some role) }
  | .roleRevoked e =>
    let key := address (.role e.vault e.principal)
    { p with role := modify p.role key ({ · with permissions := 0, active := false }) }
  | .vaultLimitsUpdated e =>
    { p with asset := modify p.asset e.vaultAsset ({ · with policy := e.policy }) }
  | .withdrawalRequested e =>
    { p with
      vault := modify p.vault e.vault ({ · with nextWithdrawalId := e.withdrawalId + 1 })
      request := Function.update p.request e.withdrawalRequest (some (e.request p)) }
  | .withdrawalExecuted e =>
    { p with request := modify p.request e.withdrawalRequest ({ · with status := .executed }) }
  | .withdrawalCancelled e =>
    { p with request := modify p.request e.withdrawalRequest ({ · with status := .cancelled }) }

end Published

section Step

variable {s s' : State Pubkey} {a : Action Pubkey}

omit [Solana Pubkey] in
theorem modify_map {β γ : Type} {m : Pubkey → Option β} {k : Pubkey} {x : β} {f : β → γ} {g : γ → γ}
    (h : m k = some x) :
    modify (Option.map f ∘ m) k g = Function.update (Option.map f ∘ m) k (some (g (f x))) := by
  simp [modify, h]

theorem Outflow.published {config vaultKey mint assetKey custody destination : Pubkey}
    {amount : UInt64} {now : Int64} {vault : Vault Pubkey} {asset : VaultAsset Pubkey}
    {next : Int64 × UInt64}
    (h : Outflow s config vaultKey mint assetKey custody destination amount now s' vault asset next) :
    Option.map VaultAsset.published ∘ s'.vaultAsset
      = Option.map VaultAsset.published ∘ s.vaultAsset := by
  -- An outflow writes the window only, which is not published.
  rw [h.asset_post, Function.comp_update]
  apply Function.update_eq_self_iff.mpr
  simp only [Function.comp_apply, h.asset_eq]
  rfl

theorem RequestWithdrawal.Accepted.nextWithdrawalId_succ {ctx : RequestWithdrawal Pubkey}
    {amount : UInt64} {now : Int64} {event : IronVaultEvent Pubkey} {vault : Vault Pubkey}
    {asset : VaultAsset Pubkey} {recipientToken : TokenAccount Pubkey}
    {executeAfter expiresAt : Int64} {nextWithdrawalId : UInt64}
    (h : ctx.Accepted s amount now s' event vault asset recipientToken executeAfter expiresAt
      nextWithdrawalId) : vault.nextWithdrawalId + 1 = nextWithdrawalId := by
  have hlt := nextWithdrawalId.toNat_lt
  rw [← UInt64.toNat_inj, UInt64.toNat_add, h.nextWithdrawalId_eq, UInt64.toNat_one]
  rw [h.nextWithdrawalId_eq] at hlt
  exact Nat.mod_eq_of_lt hlt

theorem Published.foldl_some (p : Published Pubkey) (event : IronVaultEvent Pubkey) :
    (some event).toList.foldl replay p = p.replay event :=
  rfl

theorem Effect.published {event : Option (IronVaultEvent Pubkey)} (hs : Reachable s)
    (h : Effect s a s' event) : s'.published = event.toList.foldl Published.replay s.published := by
  cases h with
  | dispatch => rfl
  | thirdParty => rfl
  | initializeProtocol h =>
    rw [h.event_eq, h.post_eq, Published.foldl_some]
    simp only [State.published, Function.comp_update]
    rfl
  | setProtocolPause h =>
    rw [h.event_eq, h.post_eq, Published.foldl_some]
    simp only [State.published, Published.replay, Function.comp_update, modify_map h.config_eq]
    rfl
  | createEscrow _ h =>
    rw [h.event_eq, h.post_eq, Published.foldl_some]
    simp only [State.published, Function.comp_update]
    rfl
  | releaseEscrow h =>
    rw [h.event_eq, h.settled.post_eq, Published.foldl_some]
    simp only [State.published, Published.replay, Function.comp_update,
      modify_map h.settled.escrow_eq]
    rfl
  | refundEscrow h =>
    rw [h.event_eq, h.settled.post_eq, Published.foldl_some]
    simp only [State.published, Published.replay, Function.comp_update,
      modify_map h.settled.escrow_eq]
    rfl
  | createVault _ h =>
    rw [h.event_eq, h.post_eq, Published.foldl_some]
    simp only [State.published, Function.comp_update]
    rfl
  | setVaultAuthority h =>
    rw [h.event_eq, h.post_eq, Published.foldl_some]
    simp only [State.published, Published.replay, Function.comp_update, modify_map h.vault_eq]
    rfl
  | pauseVault h =>
    rw [h.event_eq, h.post_eq, Published.foldl_some]
    simp only [State.published, Published.replay, Function.comp_update, modify_map h.vault_eq]
    rfl
  | unpauseVault h =>
    rw [h.event_eq, h.post_eq, Published.foldl_some]
    simp only [State.published, Published.replay, Function.comp_update, modify_map h.vault_eq]
    rfl
  | registerAsset h =>
    rw [h.event_eq, h.post_eq, Published.foldl_some]
    simp only [State.published, Function.comp_update]
    rfl
  | deposit _ h =>
    rw [h.event_eq, h.post_eq, Published.foldl_some]
    rfl
  | withdraw h =>
    rw [h.event_eq, h.post_eq, Published.foldl_some]
    simp only [State.published, h.outflow.published]
    rfl
  | grantRole h =>
    rw [h.event_eq, h.post_eq, h.key_eq, Published.foldl_some]
    simp only [State.published, Function.comp_update]
    rfl
  | @revokeRole ctx principal _ _ _ _ role h =>
    -- The event names the vault and the principal, and they give the address of the assignment
    have hkey := (hs.roleAssignment h.role_eq).key_eq
    rw [h.event_eq, h.post_eq, Published.foldl_some]
    simp only [State.published, Published.replay, Function.comp_update,
      ← hkey, modify_map h.role_eq]
    rfl
  | updateLimits h =>
    rw [h.event_eq, h.post_eq, Published.foldl_some]
    simp only [State.published, Published.replay, Function.comp_update, modify_map h.asset_eq]
    rfl
  | requestWithdrawal h =>
    rw [h.event_eq, h.post_eq, Published.foldl_some]
    simp only [State.published, Published.replay, Function.comp_update, modify_map h.vault_eq,
      h.nextWithdrawalId_succ, WithdrawalRequested.request, Function.comp_apply, h.asset_eq]
    rfl
  | executeWithdrawal h =>
    rw [h.event_eq, h.post_eq, Published.foldl_some]
    simp only [State.published, Published.replay, Function.comp_update,
      modify_map h.request_eq, h.outflow.published]
    rfl
  | cancelWithdrawal h =>
    rw [h.event_eq, h.post_eq, Published.foldl_some]
    simp only [State.published, Published.replay, Function.comp_update, modify_map h.request_eq]
    rfl

theorem History.published {tr : List (Transition (State Pubkey) (Action Pubkey))} (h : History tr s) :
    s.published = (emittedEvents tr).foldl Published.replay Published.empty := by
  apply Run.foldl_filterMap h
  intro before t a u hrun hstep
  obtain ⟨event, hemitted, heffect⟩ := hstep.effect
  rw [hemitted]
  exact heffect.published ⟨before, hrun⟩

theorem process_event {now : Int64} {ix : Instruction Pubkey} {event : Option (IronVaultEvent Pubkey)}
    (h : process s now ix = .ok (s', event)) (hne : s' ≠ s) : ∃ e, event = some e := by
  cases ix with
  | dispatch =>
    simp only [process, Except.ok.injEq, Prod.mk.injEq] at h
    exact absurd h.1.symm hne
  | _ =>
    obtain ⟨e, he, -⟩ := process.emit_eq_ok.mp h
    exact ⟨e, he.symm⟩

end Step

structure EmitsOnce (s : State Pubkey) (now : Int64) (ix : Instruction Pubkey) : Prop where
  ok {s' : State Pubkey} {event : Option (IronVaultEvent Pubkey)} :
    process s now ix = .ok (s', event) → s' ≠ s →
      ∃ e, emittedEvents [⟨s, .instruction ix now, s'⟩] = [e]
  error {e : Error} (s' : State Pubkey) :
    process s now ix = .error e → emittedEvents [⟨s, .instruction ix now, s'⟩] = []

theorem log_replayable {tr₁ tr₂ : List (Transition (State Pubkey) (Action Pubkey))}
    {s₁ s₂ : State Pubkey} (h₁ : History tr₁ s₁) (h₂ : History tr₂ s₂)
    (hevents : emittedEvents tr₁ = emittedEvents tr₂) :
    s₁.published = s₂.published ∧
      ∀ (s : State Pubkey) (now : Int64) (ix : Instruction Pubkey), EmitsOnce s now ix := by
  refine ⟨?_, ?_⟩
  . rw [h₁.published, h₂.published, hevents]
  . intro s now ix
    constructor
    . intro s' event hok hne
      obtain ⟨e, rfl⟩ := process_event hok hne
      exact ⟨e, by simp [emittedEvents, emitted, hok]⟩
    . intro e s' herror
      simp [emittedEvents, emitted, herror]

namespace Scenario

def requestedIdle : List (Instruction Key × Int64) :=
  setup ++ [(updateLimits, 4), (withdraw 5, 5), (.dispatch, 5), (requestWithdrawal 30, 6)]

end Scenario

open Scenario in
theorem log_replayable_requested :
    (start.final requested).published = (start.final requestedIdle).published :=
  (log_replayable history_requested
    (history_trace requestedIdle (by decide +kernel)) (by decide +kernel)).1

end IronVault
