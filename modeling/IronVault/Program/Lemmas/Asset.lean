import IronVault.Program.Impl.Asset
import IronVault.Program.Lemmas.Accounts

namespace IronVault

variable {Pubkey : Type} [DecidableEq Pubkey] [Solana Pubkey]

open Solana

structure RegisterAsset.Accepted (ctx : RegisterAsset Pubkey) (s : State Pubkey) (now : Int64)
    (s' : State Pubkey) (event : IronVaultEvent Pubkey) (vault : Vault Pubkey) : Prop where
  active : s.Active ctx.protocolConfig pauseVaultConfig
  vault_eq : s.vault ctx.vault = some vault
  authority_eq : vault.authority = ctx.authority
  mint_supported : s.SupportedMint ctx.mint ctx.tokenProgram
  key_eq : ctx.vaultAsset = address (.vaultAsset ctx.vault ctx.mint)
  tokenKey_eq : ctx.vaultToken = address (.vaultToken ctx.vault ctx.mint)
  fresh : s.unallocated ctx.vaultAsset
  token_fresh : s.unallocated ctx.vaultToken
  post_eq : s' = { s with
    vaultAsset := Function.update s.vaultAsset ctx.vaultAsset (some {
      vault := ctx.vault
      mint := ctx.mint
      tokenProgram := ctx.tokenProgram
      maxPerTransaction := u64Max
      windowLimit := u64Max
      windowSeconds := 0
      windowStartedAt := now
      windowSpent := 0
      timelockThreshold := u64Max
      timelockSeconds := 0
      requestExecutionWindowSeconds := 0
      enabled := true
      bump := (findProgramAddress (.vaultAsset ctx.vault ctx.mint)).2
      reserved := .replicate 30 0 })
    token := Function.update s.token ctx.vaultToken
      (some (.initializeAccount ctx.tokenProgram ctx.mint ctx.vault)) }
  event_eq : event = .vaultAssetRegistered {
    version := initialSchemaVersion
    vault := ctx.vault
    vaultAsset := ctx.vaultAsset
    vaultToken := ctx.vaultToken
    mint := ctx.mint
    tokenProgram := ctx.tokenProgram }

theorem RegisterAsset.registerVaultAsset_ok {ctx : RegisterAsset Pubkey} {s s' : State Pubkey}
    {now : Int64} {event : IronVaultEvent Pubkey}
    (h : ctx.registerVaultAsset s now = .ok (s', event)) :
    ∃ vault, ctx.Accepted s now s' event vault := by
  simp only [registerVaultAsset, Except.bind_eq_ok_iff, checkTokenProgram_eq_ok,
    State.loadProtocolConfig_eq_ok, State.loadVault_eq_ok, State.loadMint_eq_ok, State.init_eq_ok,
    requireProtocolActive_eq_ok, require_eq_ok, Except.pure_eq_ok_iff, Prod.mk.injEq,
    exists_const] at h
  obtain ⟨-, config, ⟨hconfig, -⟩, vault, ⟨hvault, -⟩, hauth, mint,
    ⟨hmint, hprog, hmintProg, hsupp⟩, bump, ⟨hkey, hfresh, rfl⟩, -, ⟨htokenKey, htokenFresh, -⟩,
    hactive, rfl, rfl⟩ := h
  exact ⟨vault, ⟨config, hconfig, hactive⟩, hvault, hauth,
    ⟨mint, hmint, hmintProg ▸ hprog, hmintProg, hsupp⟩, hkey, htokenKey, hfresh, htokenFresh, rfl,
    rfl⟩

def Policy.Valid (policy : Policy) : Prop :=
  0 < policy.maxPerTransaction ∧ 0 < policy.windowLimit ∧ 0 < policy.windowSeconds ∧
    policy.maxPerTransaction ≤ policy.windowLimit ∧
    policy.timelockThreshold ≤ policy.maxPerTransaction ∧ 0 < policy.timelockSeconds ∧
    0 < policy.requestExecutionWindowSeconds

def VaultAsset.policy (asset : VaultAsset Pubkey) : Policy where
  maxPerTransaction := asset.maxPerTransaction
  windowLimit := asset.windowLimit
  windowSeconds := asset.windowSeconds
  timelockThreshold := asset.timelockThreshold
  timelockSeconds := asset.timelockSeconds
  requestExecutionWindowSeconds := asset.requestExecutionWindowSeconds

def VaultAsset.withPolicy (asset : VaultAsset Pubkey) (policy : Policy) (window : Int64 × UInt64) :
    VaultAsset Pubkey :=
  { asset with
    windowStartedAt := window.1
    windowSpent := window.2
    maxPerTransaction := policy.maxPerTransaction
    windowLimit := policy.windowLimit
    windowSeconds := policy.windowSeconds
    timelockThreshold := policy.timelockThreshold
    timelockSeconds := policy.timelockSeconds
    requestExecutionWindowSeconds := policy.requestExecutionWindowSeconds }

structure UpdateLimits.Accepted (ctx : UpdateLimits Pubkey) (s : State Pubkey) (policy : Policy)
    (now : Int64) (s' : State Pubkey) (event : IronVaultEvent Pubkey) (vault : Vault Pubkey)
    (asset : VaultAsset Pubkey) (window : Int64 × UInt64) : Prop where
  active : s.Active ctx.protocolConfig pauseVaultConfig
  vault_eq : s.vault ctx.vault = some vault
  asset_eq : s.vaultAsset ctx.vaultAsset = some asset
  asset_vault : asset.vault = ctx.vault
  asset_mint : asset.mint = ctx.mint
  authorized : ctx.caller = vault.authority ∨ s.HoldsRole ctx.vault ctx.caller permissionManageLimits
  valid : policy.Valid
  window_ok : nextWindow asset policy.windowSeconds now = .ok window
  post_eq : s' = { s with
    vaultAsset := Function.update s.vaultAsset ctx.vaultAsset
      (some (asset.withPolicy policy window)) }
  event_eq : event = .vaultLimitsUpdated {
    version := initialSchemaVersion
    vault := ctx.vault
    vaultAsset := ctx.vaultAsset
    mint := asset.mint
    caller := ctx.caller
    maxPerTransaction := policy.maxPerTransaction
    windowLimit := policy.windowLimit
    windowSeconds := policy.windowSeconds
    timelockThreshold := policy.timelockThreshold
    timelockSeconds := policy.timelockSeconds
    requestExecutionWindowSeconds := policy.requestExecutionWindowSeconds
    windowStartedAt := window.1
    windowSpent := window.2 }

theorem UpdateLimits.update_ok {ctx : UpdateLimits Pubkey} {s s' : State Pubkey} {policy : Policy}
    {now : Int64} {event : IronVaultEvent Pubkey} (h : ctx.update s policy now = .ok (s', event)) :
    ∃ vault asset window, ctx.Accepted s policy now s' event vault asset window := by
  simp only [update, Except.bind_eq_ok_iff, State.loadProtocolConfig_eq_ok, State.loadVault_eq_ok,
    State.loadVaultAsset_eq_ok, State.loadMint_eq_ok, requireProtocolActive_eq_ok, authorize,
    State.authorize_eq_ok, decide_eq_true_eq, require_eq_ok, Except.pure_eq_ok_iff,
    Prod.mk.injEq, exists_const] at h
  obtain ⟨config, ⟨hconfig, -⟩, vault, ⟨hvault, -⟩, asset, ⟨hasset, -, hassetVault, hassetMint⟩, -,
    -, hactive, hauth, hvalid, window, hwindow, rfl, rfl⟩ := h
  exact ⟨vault, asset, window, ⟨config, hconfig, hactive⟩, hvault, hasset, hassetVault, hassetMint,
    hauth.imp And.left fun h => h.2.2, hvalid, hwindow, rfl, rfl⟩

omit [DecidableEq Pubkey] [Solana Pubkey] in
theorem UpdateLimits.nextWindow_ok {asset : VaultAsset Pubkey} {windowSeconds now : Int64}
    {window : Int64 × UInt64} (h : nextWindow asset windowSeconds now = .ok window) :
    (asset.windowSeconds = 0 ∧ window = (now, 0)) ∨
    (asset.windowSeconds ≠ 0 ∧ asset.windowSeconds ≠ windowSeconds ∧
      asset.windowStartedAt.toInt + asset.windowSeconds.toInt ≤ now.toInt ∧ window = (now, 0)) ∨
    (asset.windowSeconds ≠ 0 ∧ asset.windowSeconds = windowSeconds ∧
      window = (asset.windowStartedAt, asset.windowSpent)) := by
  unfold nextWindow at h
  split at h
  . next hzero =>
    simp only [Except.pure_eq_ok_iff] at h
    exact .inl ⟨hzero, h.symm⟩
  . next hzero =>
    split at h
    . next hne =>
      simp only [Except.bind_eq_ok_iff, fetch_eq_ok, Int64.checkedAdd_eq_some, require_eq_ok,
        Except.pure_eq_ok_iff, exists_const] at h
      obtain ⟨ends, hends, hle, rfl⟩ := h
      rw [Int64.le_iff_toInt_le, hends] at hle
      exact .inr (.inl ⟨hzero, hne, hle, rfl⟩)
    . next heq =>
      simp only [Except.pure_eq_ok_iff] at h
      exact .inr (.inr ⟨hzero, not_not.mp heq, h.symm⟩)

structure Deposit.Accepted (ctx : Deposit Pubkey) (s : State Pubkey) (amount : UInt64)
    (s' : State Pubkey) (event : IronVaultEvent Pubkey) (asset : VaultAsset Pubkey) : Prop where
  asset_eq : s.vaultAsset ctx.vaultAsset = some asset
  asset_vault : asset.vault = ctx.vault
  asset_mint : asset.mint = ctx.mint
  source_owner : ∃ account, s.token ctx.sourceToken = some account ∧ account.owner = ctx.depositor
  custody_eq : ctx.vaultToken = address (.vaultToken ctx.vault ctx.mint)
  amount_pos : 0 < amount
  moves : Moves s.token ctx.sourceToken ctx.vaultToken amount s'.token
  post_eq : s' = { s with token := s'.token }
  event_eq : event = .vaultDeposit {
    version := initialSchemaVersion
    vault := ctx.vault
    vaultAsset := ctx.vaultAsset
    vaultToken := ctx.vaultToken
    depositor := ctx.depositor
    sourceToken := ctx.sourceToken
    mint := ctx.mint
    amount }

theorem Deposit.depositTokens_ok {ctx : Deposit Pubkey} {s s' : State Pubkey} {amount : UInt64}
    {event : IronVaultEvent Pubkey} (h : ctx.depositTokens s amount = .ok (s', event)) :
    ∃ asset, ctx.Accepted s amount s' event asset := by
  simp only [depositTokens, Except.bind_eq_ok_iff, checkTokenProgram_eq_ok, State.loadVault_eq_ok,
    State.loadMint_eq_ok, State.loadVaultAsset_eq_ok, State.loadOwnedToken_eq_ok,
    State.loadCustody_eq_ok, require_eq_ok, State.requireBalance_eq_ok, fetch_eq_ok,
    UInt64.checkedSub_eq_some, Except.pure_eq_ok_iff, Prod.mk.injEq, exists_const] at h
  obtain ⟨-, -, -, mint, ⟨hmint, -, -, hsupp⟩, asset, ⟨hasset, -, hassetVault, hassetMint⟩, -, source,
    ⟨hsource, -, -, -, howner⟩, custody, ⟨hkey, hcustody, -⟩, hpos, -, -, _, -, s₁, htransfer, after,
    hafter, hbalance, -, rfl, rfl⟩ := h
  have hmoves :=
    Moves.of_transferChecked htransfer hmint hsupp hsource hcustody howner hpos hafter hbalance
  rw [State.transferChecked_eq_ok] at htransfer
  obtain ⟨token, -, rfl⟩ := htransfer
  exact ⟨asset, hasset, hassetVault, hassetMint, ⟨source, hsource, howner⟩, hkey, hpos, hmoves, rfl,
    rfl⟩

omit [DecidableEq Pubkey] [Solana Pubkey] in
theorem nextWindowState_ok {asset : VaultAsset Pubkey} {amount : UInt64} {now : Int64}
    {next : Int64 × UInt64} (h : nextWindowState asset amount now = .ok next) :
    (asset.windowSeconds = 0 ∧ next = (asset.windowStartedAt, asset.windowSpent)) ∨
    (0 < asset.windowSeconds ∧ next.2 ≤ asset.windowLimit ∧
      ((asset.windowStartedAt.toInt + asset.windowSeconds.toInt ≤ now.toInt ∧
          next = (now, amount)) ∨
        (now.toInt < asset.windowStartedAt.toInt + asset.windowSeconds.toInt ∧
          next.1 = asset.windowStartedAt ∧
          next.2.toNat = asset.windowSpent.toNat + amount.toNat))) := by
  unfold nextWindowState at h
  split at h
  . next hzero =>
    simp only [Except.pure_eq_ok_iff] at h
    exact .inl ⟨hzero, h.symm⟩
  . simp only [Except.bind_eq_ok_iff, require_eq_ok, fetch_eq_ok, Int64.checkedAdd_eq_some,
      UInt64.checkedAdd_eq_some, Except.pure_eq_ok_iff, exists_const] at h
    obtain ⟨hpos, ends, hends, spent, hspent, hlimit, rfl⟩ := h
    refine .inr ⟨hpos, hlimit, ?_⟩
    split at hspent
    . next hle =>
      simp only [UInt64.toNat_zero, Nat.zero_add, UInt64.toNat_inj] at hspent
      rw [if_pos hle, hspent]
      rw [Int64.le_iff_toInt_le, hends] at hle
      exact .inl ⟨hle, rfl⟩
    . next hlt =>
      rw [if_neg hlt]
      rw [Int64.le_iff_toInt_le, hends] at hlt
      exact .inr ⟨by omega, rfl, hspent⟩

/--
What every way out of a vault has in common: nothing is paused, the amount fits into a transaction
and into the window, it leaves custody and the window is charged.
-/
structure Outflow (s : State Pubkey) (config vaultKey mint assetKey custody destination : Pubkey)
    (amount : UInt64) (now : Int64) (s' : State Pubkey) (vault : Vault Pubkey)
    (asset : VaultAsset Pubkey) (next : Int64 × UInt64) : Prop where
  active : s.Active config pauseVaultOutflow
  vault_eq : s.vault vaultKey = some vault
  paused_eq : vault.paused = false
  asset_eq : s.vaultAsset assetKey = some asset
  asset_vault : asset.vault = vaultKey
  asset_mint : asset.mint = mint
  custody_eq : custody = address (.vaultToken vaultKey mint)
  le_max : amount ≤ asset.maxPerTransaction
  window_ok : nextWindowState asset amount now = .ok next
  moves : 0 < amount → Moves s.token custody destination amount s'.token
  asset_post : s'.vaultAsset = Function.update s.vaultAsset assetKey
    (some { asset with windowStartedAt := next.1, windowSpent := next.2 })

theorem Outflow.asset_some {s s' : State Pubkey}
    {config vaultKey mint assetKey custody destination : Pubkey} {amount : UInt64} {now : Int64}
    {vault : Vault Pubkey} {asset : VaultAsset Pubkey} {next : Int64 × UInt64}
    (h : Outflow s config vaultKey mint assetKey custody destination amount now s' vault asset next) :
    s'.vaultAsset assetKey
      = some { asset with windowStartedAt := next.1, windowSpent := next.2 } := by
  rw [h.asset_post]
  exact Function.update_self ..

structure Withdraw.Accepted (ctx : Withdraw Pubkey) (s : State Pubkey) (amount : UInt64)
    (now : Int64) (s' : State Pubkey) (event : IronVaultEvent Pubkey) (vault : Vault Pubkey)
    (asset : VaultAsset Pubkey) (next : Int64 × UInt64) : Prop where
  authorized : ctx.caller = vault.authority ∨ s.HoldsRole ctx.vault ctx.caller permissionWithdraw
  amount_pos : 0 < amount
  le_threshold : amount ≤ asset.timelockThreshold
  outflow : Outflow s ctx.protocolConfig ctx.vault ctx.mint ctx.vaultAsset ctx.vaultToken
    ctx.destinationToken amount now s' vault asset next
  post_eq : s' = { s with token := s'.token, vaultAsset := s'.vaultAsset }
  event_eq : event = .vaultWithdrawal {
    version := initialSchemaVersion
    vault := ctx.vault
    vaultAsset := ctx.vaultAsset
    vaultToken := ctx.vaultToken
    caller := ctx.caller
    destinationToken := ctx.destinationToken
    mint := ctx.mint
    amount }

theorem Withdraw.withdrawTokens_ok {ctx : Withdraw Pubkey} {s s' : State Pubkey} {amount : UInt64}
    {now : Int64} {event : IronVaultEvent Pubkey}
    (h : ctx.withdrawTokens s amount now = .ok (s', event)) :
    ∃ vault asset next, ctx.Accepted s amount now s' event vault asset next := by
  simp only [withdrawTokens, Except.bind_eq_ok_iff, checkTokenProgram_eq_ok,
    State.loadProtocolConfig_eq_ok, State.loadVault_eq_ok, State.loadMint_eq_ok,
    State.loadVaultAsset_eq_ok, State.loadCustody_eq_ok, State.loadToken_eq_ok,
    requireProtocolActive_eq_ok, State.authorize_eq_ok, decide_eq_true_eq, require_eq_ok,
    State.requireBalance_eq_ok, fetch_eq_ok, UInt64.checkedSub_eq_some, Except.pure_eq_ok_iff,
    Prod.mk.injEq, exists_const, Bool.not_eq_true'] at h
  obtain ⟨-, config, ⟨hconfig, -⟩, vault, ⟨hvault, -⟩, mint, ⟨hmint, -, -, hsupp⟩, asset,
    ⟨hasset, -, hassetVault, hassetMint⟩, -, custody, ⟨hkey, hcustody, -, -, -, howner⟩, h⟩ := h
  obtain ⟨dest, ⟨hdest, -⟩, hactive, hauth, hpos, hpaused, -, hmax, hthreshold, -, next, hnext,
    h⟩ := h
  obtain ⟨_, -, s₁, htransfer, after, hafter, hbalance, -, rfl, rfl⟩ := h
  have hmoves :=
    Moves.of_transferChecked htransfer hmint hsupp hcustody hdest howner hpos hafter hbalance
  rw [State.transferChecked_eq_ok] at htransfer
  obtain ⟨token, -, rfl⟩ := htransfer
  refine ⟨vault, asset, next, hauth.imp And.left fun h => h.2.2, hpos, hthreshold,
    ⟨⟨config, hconfig, hactive⟩, hvault, hpaused, hasset, hassetVault, hassetMint, hkey, hmax, hnext,
      fun _ => hmoves, ?_⟩, rfl, rfl⟩
  -- Without a window there is nothing to write, and what `next` holds is the old window
  rcases nextWindowState_ok hnext with ⟨hzero, rfl⟩ | ⟨hwindow, -⟩
  . have hnot : ¬ 0 < asset.windowSeconds := by simp [hzero]
    rw [if_neg hnot]
  . rw [if_pos hwindow]

end IronVault
