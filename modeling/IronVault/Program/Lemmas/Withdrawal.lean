import IronVault.Program.Impl.Withdrawal
import IronVault.Program.Lemmas.Asset

namespace IronVault

variable {Pubkey : Type} [DecidableEq Pubkey] [Solana Pubkey]

open Solana

structure RequestWithdrawal.Accepted (ctx : RequestWithdrawal Pubkey) (s : State Pubkey)
    (amount : UInt64) (now : Int64) (s' : State Pubkey) (event : IronVaultEvent Pubkey)
    (vault : Vault Pubkey) (asset : VaultAsset Pubkey) (recipientToken : TokenAccount Pubkey)
    (executeAfter expiresAt : Int64) (nextWithdrawalId : UInt64) : Prop where
  active : s.Active ctx.protocolConfig pauseVaultOutflow
  vault_eq : s.vault ctx.vault = some vault
  paused_eq : vault.paused = false
  asset_eq : s.vaultAsset ctx.vaultAsset = some asset
  asset_vault : asset.vault = ctx.vault
  asset_mint : asset.mint = ctx.mint
  recipientToken_eq : s.token ctx.recipientToken = some recipientToken
  key_eq : ctx.withdrawalRequest = address (.withdrawal ctx.vault vault.nextWithdrawalId)
  fresh : s.unallocated ctx.withdrawalRequest
  authorized :
    ctx.proposer = vault.authority ∨ s.HoldsRole ctx.vault ctx.proposer permissionRequestWithdrawal
  amount_pos : 0 < amount
  threshold_lt : asset.timelockThreshold < amount
  le_max : amount ≤ asset.maxPerTransaction
  executeAfter_eq : executeAfter.toInt = now.toInt + asset.timelockSeconds.toInt
  expiresAt_eq : expiresAt.toInt = executeAfter.toInt + asset.requestExecutionWindowSeconds.toInt
  now_lt : now < executeAfter
  executeAfter_lt : executeAfter < expiresAt
  nextWithdrawalId_eq : nextWithdrawalId.toNat = vault.nextWithdrawalId.toNat + 1
  post_eq : s' = { s with
    vault := Function.update s.vault ctx.vault (some { vault with nextWithdrawalId })
    withdrawalRequest := Function.update s.withdrawalRequest ctx.withdrawalRequest (some {
      vault := ctx.vault
      vaultAsset := ctx.vaultAsset
      mint := ctx.mint
      tokenProgram := asset.tokenProgram
      proposer := ctx.proposer
      recipientOwner := recipientToken.owner
      recipientTokenAccount := ctx.recipientToken
      withdrawalId := vault.nextWithdrawalId
      amount
      createdAt := now
      executeAfter
      expiresAt
      status := .pending
      bump := (findProgramAddress (.withdrawal ctx.vault vault.nextWithdrawalId)).2
      reserved := .replicate 30 0 }) }
  event_eq : event = .withdrawalRequested {
    version := initialSchemaVersion
    vault := ctx.vault
    vaultAsset := ctx.vaultAsset
    withdrawalRequest := ctx.withdrawalRequest
    proposer := ctx.proposer
    recipientOwner := recipientToken.owner
    recipientTokenAccount := ctx.recipientToken
    mint := ctx.mint
    withdrawalId := vault.nextWithdrawalId
    amount
    createdAt := now
    executeAfter
    expiresAt }

theorem RequestWithdrawal.request_ok {ctx : RequestWithdrawal Pubkey} {s s' : State Pubkey}
    {amount : UInt64} {now : Int64} {event : IronVaultEvent Pubkey}
    (h : ctx.request s amount now = .ok (s', event)) :
    ∃ vault asset recipientToken executeAfter expiresAt nextWithdrawalId,
      ctx.Accepted s amount now s' event vault asset recipientToken executeAfter expiresAt
        nextWithdrawalId := by
  simp only [request, Except.bind_eq_ok_iff, State.loadProtocolConfig_eq_ok, State.loadVault_eq_ok,
    State.loadVaultAsset_eq_ok, State.loadMint_eq_ok, State.loadToken_eq_ok, State.init_eq_ok,
    requireProtocolActive_eq_ok, authorize, State.authorize_eq_ok, decide_eq_true_eq, require_eq_ok,
    fetch_eq_ok, Int64.checkedAdd_eq_some, UInt64.checkedAdd_eq_some, Except.pure_eq_ok_iff,
    Prod.mk.injEq, exists_const, Bool.not_eq_true'] at h
  obtain ⟨config, ⟨hconfig, -⟩, vault, ⟨hvault, -⟩, asset, ⟨hasset, -, hassetVault, hassetMint⟩, -, -,
    recipient, ⟨hrecipient, -⟩, bump, ⟨hkey, hfresh, rfl⟩, h⟩ := h
  obtain ⟨hactive, hauth, hpos, hpaused, -, hthreshold, hmax, executeAfter, hafter, expiresAt,
    hexpires, hnow, hlt, next, hnext, rfl, rfl⟩ := h
  exact ⟨vault, asset, recipient, executeAfter, expiresAt, next, ⟨config, hconfig, hactive⟩, hvault,
    hpaused, hasset, hassetVault, hassetMint, hrecipient, hkey, hfresh,
    hauth.imp And.left fun h => h.2.2, hpos, hthreshold, hmax, hafter, hexpires, hnow, hlt, hnext,
    rfl, rfl⟩

structure ExecuteWithdrawal.Accepted (ctx : ExecuteWithdrawal Pubkey) (s : State Pubkey)
    (now : Int64) (s' : State Pubkey) (event : IronVaultEvent Pubkey) (vault : Vault Pubkey)
    (asset : VaultAsset Pubkey) (request : WithdrawalRequest Pubkey) (next : Int64 × UInt64) :
    Prop where
  request_eq : s.withdrawalRequest ctx.withdrawalRequest = some request
  request_vault : request.vault = ctx.vault
  request_asset : request.vaultAsset = ctx.vaultAsset
  request_mint : request.mint = ctx.mint
  recipient_eq : ctx.recipientToken = request.recipientTokenAccount
  recipient_owner :
    ∃ account, s.token ctx.recipientToken = some account ∧ account.owner = request.recipientOwner
  status_eq : request.status = .pending
  le_now : request.executeAfter ≤ now
  now_le : now ≤ request.expiresAt
  outflow : Outflow s ctx.protocolConfig ctx.vault ctx.mint ctx.vaultAsset ctx.vaultToken
    ctx.recipientToken request.amount now s' vault asset next
  post_eq : s' = { s with
    token := s'.token
    vaultAsset := s'.vaultAsset
    withdrawalRequest := Function.update s.withdrawalRequest ctx.withdrawalRequest
      (some { request with status := .executed }) }
  event_eq : event = .withdrawalExecuted {
    version := initialSchemaVersion
    vault := ctx.vault
    vaultAsset := ctx.vaultAsset
    withdrawalRequest := ctx.withdrawalRequest
    caller := ctx.caller
    recipientTokenAccount := ctx.recipientToken
    mint := ctx.mint
    withdrawalId := request.withdrawalId
    amount := request.amount }

theorem ExecuteWithdrawal.execute_ok {ctx : ExecuteWithdrawal Pubkey} {s s' : State Pubkey}
    {now : Int64} {event : IronVaultEvent Pubkey} (h : ctx.execute s now = .ok (s', event)) :
    ∃ vault asset request next, ctx.Accepted s now s' event vault asset request next := by
  simp only [execute, Except.bind_eq_ok_iff, checkTokenProgram_eq_ok, State.loadProtocolConfig_eq_ok,
    State.loadVault_eq_ok, State.loadMint_eq_ok, State.loadVaultAsset_eq_ok,
    State.loadWithdrawalRequest_eq_ok, State.loadCustody_eq_ok, State.loadOwnedToken_eq_ok,
    requireProtocolActive_eq_ok, require_eq_ok, State.requireBalance_eq_ok, fetch_eq_ok,
    UInt64.checkedSub_eq_some, Except.pure_eq_ok_iff, Prod.mk.injEq, exists_const,
    Bool.not_eq_true'] at h
  obtain ⟨-, config, ⟨hconfig, -⟩, vault, ⟨hvault, -⟩, mint, ⟨hmint, -, -, hsupp⟩, asset,
    ⟨hasset, -, hassetVault, hassetMint⟩, -, request, ⟨hrequest, -, hrequestVault⟩, hrequestAsset,
    hrequestMint, -, custody, ⟨hkey, hcustody, -, -, -, howner⟩, h⟩ := h
  obtain ⟨hrecipientKey, recipient, ⟨hrecipient, -, -, -, hrecipientOwner⟩, hactive, hpending,
    hafter, hexpires, hpaused, -, hmax, -, h⟩ := h
  obtain ⟨next, hnext, _, -, s₁, htransfer, left, hleft, hbalance, -, rfl, rfl⟩ := h
  have hmoves hpos :=
    Moves.of_transferChecked htransfer hmint hsupp hcustody hrecipient howner hpos hleft hbalance
  rw [State.transferChecked_eq_ok] at htransfer
  obtain ⟨token, -, rfl⟩ := htransfer
  exact ⟨vault, asset, request, next, hrequest, hrequestVault, hrequestAsset, hrequestMint,
    hrecipientKey, ⟨recipient, hrecipient, hrecipientOwner⟩, hpending, hafter, hexpires,
    ⟨⟨config, hconfig, hactive⟩, hvault, hpaused, hasset, hassetVault, hassetMint, hkey, hmax, hnext,
      hmoves, rfl⟩, rfl, rfl⟩

structure CancelWithdrawal.Accepted (ctx : CancelWithdrawal Pubkey) (s s' : State Pubkey)
    (event : IronVaultEvent Pubkey) (vault : Vault Pubkey) (request : WithdrawalRequest Pubkey) :
    Prop where
  vault_eq : s.vault ctx.vault = some vault
  request_eq : s.withdrawalRequest ctx.withdrawalRequest = some request
  request_vault : request.vault = ctx.vault
  status_eq : request.status = .pending
  authorized : ctx.caller = vault.authority ∨ ctx.caller = vault.guardian ∨
    ctx.caller = request.proposer ∨ s.HoldsRole ctx.vault ctx.caller permissionCancelWithdrawal
  post_eq : s' = { s with
    withdrawalRequest := Function.update s.withdrawalRequest ctx.withdrawalRequest
      (some { request with status := .cancelled }) }
  event_eq : event = .withdrawalCancelled {
    version := initialSchemaVersion
    vault := ctx.vault
    withdrawalRequest := ctx.withdrawalRequest
    caller := ctx.caller
    proposer := request.proposer
    withdrawalId := request.withdrawalId }

theorem CancelWithdrawal.cancel_ok {ctx : CancelWithdrawal Pubkey} {s s' : State Pubkey}
    {event : IronVaultEvent Pubkey} (h : ctx.cancel s = .ok (s', event)) :
    ∃ vault request, ctx.Accepted s s' event vault request := by
  simp only [cancel, Except.bind_eq_ok_iff, State.loadVault_eq_ok,
    State.loadWithdrawalRequest_eq_ok, require_eq_ok, authorize, State.authorize_eq_ok,
    decide_eq_true_eq, Except.pure_eq_ok_iff, Prod.mk.injEq, exists_const] at h
  obtain ⟨vault, ⟨hvault, -⟩, request, ⟨hrequest, -, hrequestVault⟩, hpending, hauth, rfl, rfl⟩ := h
  refine ⟨vault, request, hvault, hrequest, hrequestVault, hpending, ?_, rfl, rfl⟩
  rcases hauth with ⟨hauth | hauth | hauth, -⟩ | ⟨-, -, hrole⟩
  . exact .inl hauth
  . exact .inr (.inl hauth)
  . exact .inr (.inr (.inl hauth))
  . exact .inr (.inr (.inr hrole))

end IronVault
