import IronVault.Program.Authorization
import IronVault.Program.Recovery
import IronVault.Program.Rotation

/-!
This module contains exactly when the instructions that move funds of a vault are accepted. In a
reachable state nearly all account constraints hold by themselves or fix the account, so what is left
are the conditions of the policy, the pauses and the token accounts of the other side.
-/

namespace IronVault

variable {Pubkey : Type} [DecidableEq Pubkey] [Solana Pubkey]

open Solana

section Loads

variable {s : State Pubkey} (hs : Reachable s)

include hs

theorem Reachable.loadProtocolConfig_iff {key : Pubkey} {config : ProtocolConfig Pubkey} :
    s.loadProtocolConfig key = .ok config ↔
      key = address .protocol ∧ s.protocolConfig (address .protocol) = some config := by
  constructor
  . intro h
    obtain ⟨hconfig, -⟩ := State.loadProtocolConfig_eq_ok.mp h
    obtain rfl := (hs.protocolConfig hconfig).key_eq
    exact ⟨rfl, hconfig⟩
  . rintro ⟨rfl, hconfig⟩
    exact hs.loadProtocolConfig_eq hconfig

theorem Reachable.loadVault_iff {key : Pubkey} {vault : Vault Pubkey} :
    s.loadVault key = .ok vault ↔ s.vault key = some vault := by
  constructor
  . intro h
    exact (State.loadVault_eq_ok.mp h).1
  . intro h
    exact hs.loadVault_eq h

theorem Reachable.loadVaultAsset_iff {key v m : Pubkey} {asset : VaultAsset Pubkey} :
    s.loadVaultAsset key v m = .ok asset ↔
      key = address (.vaultAsset v m) ∧ s.vaultAsset (address (.vaultAsset v m)) = some asset ∧
        asset.vault = v ∧ asset.mint = m := by
  constructor
  . intro h
    obtain ⟨hasset, -, hv, hm⟩ := State.loadVaultAsset_eq_ok.mp h
    obtain rfl := hs.asset_key hasset hv hm
    exact ⟨rfl, hasset, hv, hm⟩
  . rintro ⟨rfl, hasset, rfl, rfl⟩
    exact hs.loadVaultAsset_eq hasset

theorem Reachable.loadWithdrawalRequest_iff {key v : Pubkey} {request : WithdrawalRequest Pubkey} :
    s.loadWithdrawalRequest key v = .ok request ↔
      s.withdrawalRequest key = some request ∧ request.vault = v := by
  rw [State.loadWithdrawalRequest_eq_ok]
  constructor
  . rintro ⟨hrequest, -, hv⟩
    exact ⟨hrequest, hv⟩
  . rintro ⟨hrequest, rfl⟩
    exact ⟨hrequest, (hs.withdrawalRequest hrequest).canonical.create_eq, rfl⟩

theorem Reachable.vault_of_asset {key : Pubkey} {asset : VaultAsset Pubkey}
    (hasset : s.vaultAsset key = some asset) : ∃ vault, s.vault asset.vault = some vault := by
  induction hs using Reachable.induction generalizing key asset with
  | empty => simp [State.empty] at hasset
  | step s a s' hreach hstep ih =>
    suffices ∃ vault, s.vault asset.vault = some vault by
      obtain ⟨vault, hvault⟩ := this
      exact hstep.vault_some hvault
    cases hstep.assetChange with
    | same h =>
      rw [h] at hasset
      exact ih hasset
    | register h =>
      rw [h.post_eq] at hasset
      apply Function.forall_update_some hasset ih
      exact ⟨_, h.vault_eq⟩
    | updateLimits h =>
      rw [h.post_eq] at hasset
      apply Function.forall_update_some hasset ih
      have hvault := ih h.asset_eq
      exact hvault
    | withdraw h =>
      rw [h.outflow.asset_post] at hasset
      apply Function.forall_update_some hasset ih
      have hvault := ih h.outflow.asset_eq
      exact hvault
    | execute h =>
      rw [h.outflow.asset_post] at hasset
      apply Function.forall_update_some hasset ih
      have hvault := ih h.outflow.asset_eq
      exact hvault

/--
A request keeps the token program of its asset.
-/
theorem Reachable.custody_of_request {key : Pubkey} {request : WithdrawalRequest Pubkey}
    (hrequest : s.withdrawalRequest key = some request) :
    s.Custody (address (.vaultToken request.vault request.mint)) request.vault request.mint
      request.tokenProgram := by
  induction hs using Reachable.induction generalizing key request with
  | empty => simp [State.empty] at hrequest
  | step s a s' hreach hstep ih =>
    have hkeep {key : Pubkey} {request : WithdrawalRequest Pubkey}
        (h : s.withdrawalRequest key = some request) := (ih h).step hreach hstep
    cases hstep.requestChange with
    | same h =>
      rw [h] at hrequest
      exact hkeep hrequest
    | request h =>
      have hcustody := (hreach.custody_of_asset h.asset_eq).step hreach hstep
      rw [h.asset_vault, h.asset_mint] at hcustody
      rw [h.post_eq] at hrequest
      apply Function.forall_update_some hrequest hkeep
      exact hcustody
    | execute h =>
      rw [h.post_eq] at hrequest
      apply Function.forall_update_some hrequest hkeep
      have hcustody := hkeep h.request_eq
      exact hcustody
    | cancel h =>
      rw [h.post_eq] at hrequest
      apply Function.forall_update_some hrequest hkeep
      have hcustody := hkeep h.request_eq
      exact hcustody

end Loads

section Window

variable {asset : VaultAsset Pubkey} {amount : UInt64} {now : Int64}

/--
What is spent in the window that `now` falls in, together with `amount`, is within the limit.
-/
def VaultAsset.WindowAdmits (asset : VaultAsset Pubkey) (amount : UInt64) (now : Int64) : Prop :=
  asset.windowSeconds ≠ 0 → asset.WindowFits ∧
    (if asset.windowStartedAt.toInt + asset.windowSeconds.toInt ≤ now.toInt then 0
      else asset.windowSpent.toNat) + amount.toNat ≤ asset.windowLimit.toNat

omit [DecidableEq Pubkey] [Solana Pubkey] in
theorem nextWindowState_iff (hseconds : asset.windowSeconds = 0 ∨ 0 < asset.windowSeconds) :
    (∃ next, nextWindowState asset amount now = .ok next) ↔ asset.WindowAdmits amount now := by
  constructor
  . rintro ⟨next, h⟩ hne
    refine ⟨nextWindowState_fits h hne, ?_⟩
    rcases nextWindowState_ok h with ⟨hzero, -⟩ | ⟨-, hlimit, ⟨hend, rfl⟩ | ⟨hend, -, hspent⟩⟩
    . exact absurd hzero hne
    . rw [if_pos hend, Nat.zero_add]
      exact UInt64.le_iff_toNat_le.mp hlimit
    . rw [if_neg (by omega), ← hspent]
      exact UInt64.le_iff_toNat_le.mp hlimit
  . intro h
    rcases hseconds with hzero | hpos
    . exact ⟨(asset.windowStartedAt, asset.windowSpent), by simp [nextWindowState, hzero, pure, Except.pure]⟩
    . have hne : asset.windowSeconds ≠ 0 := by
        intro hzero
        simp [hzero] at hpos
      obtain ⟨hfits, hlimit⟩ := h hne
      have hpos' := Int64.lt_iff_toInt_lt.mp hpos
      have hlow := asset.windowStartedAt.le_toInt
      have hends : (Int64.ofInt (asset.windowStartedAt.toInt + asset.windowSeconds.toInt)).toInt
          = asset.windowStartedAt.toInt + asset.windowSeconds.toInt := by
        apply Int64.toInt_ofInt_of_le
        . simp at hpos'
          omega
        . exact hfits
      obtain ⟨spent, hspent⟩ : ∃ spent : UInt64, spent.toNat
          = (if asset.windowStartedAt.toInt + asset.windowSeconds.toInt ≤ now.toInt then 0
            else asset.windowSpent.toNat) + amount.toNat :=
        ⟨.ofNat _, UInt64.toNat_ofNat_of_lt' (hlimit.trans_lt asset.windowLimit.toNat_lt)⟩
      unfold nextWindowState
      rw [if_neg hne]
      simp only [Except.bind_eq_ok_iff, require_eq_ok, fetch_eq_ok, Int64.checkedAdd_eq_some,
        UInt64.checkedAdd_eq_some, Except.pure_eq_ok_iff, exists_const]
      refine ⟨_, hpos, _, hends, spent, ?_, ?_, rfl⟩
      . simp only [hspent, Int64.le_iff_toInt_le, hends]
        split <;> simp
      . rw [UInt64.le_iff_toNat_le, hspent]
        exact hlimit

end Window

/--
The account fits `custody` and has room for `amount`.
-/
def State.Receives (s : State Pubkey) (key custody mint tokenProgram : Pubkey) (amount : UInt64)
    (account : TokenAccount Pubkey) : Prop :=
  s.token key = some account ∧ account.mint = mint ∧ account.tokenProgram = tokenProgram ∧
    account.amount.toNat + amount.toNat < 2 ^ 64 ∧ key ≠ custody

section Execute

def ExecuteWithdrawal.canonical (caller key : Pubkey) (request : WithdrawalRequest Pubkey) :
    ExecuteWithdrawal Pubkey where
  caller
  protocolConfig := address .protocol
  vault := request.vault
  mint := request.mint
  vaultAsset := address (.vaultAsset request.vault request.mint)
  withdrawalRequest := key
  vaultToken := address (.vaultToken request.vault request.mint)
  recipientToken := request.recipientTokenAccount
  tokenProgram := request.tokenProgram

structure ExecutionReady (s : State Pubkey) (request : WithdrawalRequest Pubkey) (now : Int64) :
    Prop where
  pending : request.status = .pending
  unlocked : request.executeAfter ≤ now
  unexpired : now ≤ request.expiresAt
  outflowOpen : s.OutflowOpen request.vault
  admitted : ∃ asset, s.vaultAsset (address (.vaultAsset request.vault request.mint)) = some asset ∧
    request.amount ≤ asset.maxPerTransaction ∧ asset.WindowAdmits request.amount now
  funded : request.amount.toNat ≤ s.balance (address (.vaultToken request.vault request.mint))
  payable : s.Payable (address (.vaultToken request.vault request.mint))
    request.recipientTokenAccount
  recipient : ∃ account, account.owner = request.recipientOwner ∧
    s.Receives request.recipientTokenAccount (address (.vaultToken request.vault request.mint))
      request.mint request.tokenProgram request.amount account

variable {s : State Pubkey} {now : Int64} {request : WithdrawalRequest Pubkey}

theorem ExecuteWithdrawal.canonical_of_ok (hs : Reachable s) {ctx : ExecuteWithdrawal Pubkey}
    (hrequest : s.withdrawalRequest ctx.withdrawalRequest = some request) {s' : State Pubkey}
    {event : IronVaultEvent Pubkey} (h : ctx.execute s now = .ok (s', event)) :
    ctx = .canonical ctx.caller ctx.withdrawalRequest request ∧ ExecutionReady s request now := by
  have hpos := (hs.withdrawalRequest hrequest).amount_pos
  obtain ⟨_, _, request', _, haccepted⟩ := execute_ok h
  obtain rfl : request' = request := by
    rw [haccepted.request_eq, Option.some.injEq] at hrequest
    exact hrequest
  have hmoves := haccepted.outflow.moves hpos
  simp only [execute, Except.bind_eq_ok_iff, checkTokenProgram_eq_ok, hs.loadProtocolConfig_iff,
    hs.loadVault_iff, hs.loadVaultAsset_iff, hs.loadWithdrawalRequest_iff, State.loadCustody_eq_ok,
    State.loadOwnedToken_eq_ok, require_eq_ok, requireProtocolActive_eq_ok, exists_const,
    Bool.not_eq_true'] at h
  obtain ⟨-, config, ⟨hconfigKey, hconfig⟩, vault, hvault, mint, -, asset, ⟨hassetKey, hasset, -⟩, -,
    request, ⟨hlookup, hrequestVault⟩, -, hrequestMint, hprogram, custody, ⟨hcustodyKey, hcustody, -⟩,
    h⟩ := h
  rw [hrequest, Option.some.injEq] at hlookup
  subst hlookup
  obtain ⟨hrecipientKey, account, ⟨haccount, -, hmint, haccountProgram, howner⟩, hactive, hpending,
    hunlocked, hunexpired, hpaused, -, hmax, hfunds, next, hnext, -⟩ := h
  rw [← hrequestVault, ← hrequestMint] at hassetKey hasset hcustodyKey
  rw [← hrequestVault] at hvault
  constructor
  . cases ctx
    simp only at hconfigKey hrequestVault hrequestMint hassetKey hcustodyKey hrecipientKey hprogram
    simp only [canonical, ExecuteWithdrawal.mk.injEq, true_and]
    exact ⟨hconfigKey, hrequestVault.symm, hrequestMint.symm, hassetKey, hcustodyKey, hrecipientKey,
      hprogram.symm⟩
  . have hseconds := (hs.vaultAsset hasset).windowSeconds_nonneg
    refine ⟨hpending, hunlocked, hunexpired, ⟨⟨vault, hvault, hpaused⟩, config, hconfig, hactive⟩,
      ⟨asset, hasset, hmax, (nextWindowState_iff hseconds).mp ⟨next, hnext⟩⟩, ?_, ?_, ?_⟩
    . rw [hcustodyKey] at hcustody
      simpa [State.balance, balanceOf, hcustody] using UInt64.le_iff_toNat_le.mp hfunds
    . rw [hcustodyKey, hrecipientKey] at hmoves
      exact (hs.custody_of_request hrequest).payable_of_moves hmoves
    . obtain ⟨hne, src, src', dst, -, hdst, -, -, hroom, -⟩ := hmoves
      rw [haccount, Option.some.injEq] at hdst
      subst hdst
      rw [hrecipientKey] at haccount hne
      rw [hcustodyKey] at hne
      exact ⟨account, howner, haccount, hmint, haccountProgram.trans hprogram.symm, hroom, hne.symm⟩

theorem ExecuteWithdrawal.execute_succeeds (ctx : ExecuteWithdrawal Pubkey)
    {config : ProtocolConfig Pubkey} {vault : Vault Pubkey} {asset : VaultAsset Pubkey}
    {mint : Mint Pubkey} {custody recipient : TokenAccount Pubkey} {next : Int64 × UInt64}
    (hconfig : s.loadProtocolConfig ctx.protocolConfig = .ok config)
    (hactive : config.isPaused pauseVaultOutflow = false)
    (hvault : s.loadVault ctx.vault = .ok vault)
    (hmint : s.loadMint ctx.mint ctx.tokenProgram = .ok mint)
    (hasset : s.loadVaultAsset ctx.vaultAsset ctx.vault ctx.mint = .ok asset)
    (hprogram : asset.tokenProgram = ctx.tokenProgram)
    (hrequest : s.loadWithdrawalRequest ctx.withdrawalRequest ctx.vault = .ok request)
    (hrequestAsset : request.vaultAsset = ctx.vaultAsset) (hrequestMint : request.mint = ctx.mint)
    (hrequestProgram : request.tokenProgram = ctx.tokenProgram)
    (hcustody : s.loadCustody ctx.vaultToken (.vaultToken ctx.vault ctx.mint) ctx.vault ctx.mint
      ctx.tokenProgram .invalidVaultCustodyBalance .invalidWithdrawalMint = .ok custody)
    (hkey : ctx.recipientToken = request.recipientTokenAccount)
    (hrecipient : s.loadOwnedToken ctx.recipientToken request.recipientOwner request.mint
      ctx.tokenProgram .invalidWithdrawalRecipient .invalidWithdrawalMint = .ok recipient)
    (hpending : request.status = .pending) (hunlocked : request.executeAfter ≤ now)
    (hunexpired : now ≤ request.expiresAt) (hpaused : vault.paused = false)
    (henabled : asset.enabled = true) (hmax : request.amount ≤ asset.maxPerTransaction)
    (hsends : custody.Sends request.amount) (hreceives : recipient.Receives)
    (hfunds : request.amount ≤ custody.amount)
    (hwindow : nextWindowState asset request.amount now = .ok next)
    (hroom : recipient.amount.toNat + request.amount.toNat < 2 ^ 64)
    (hne : ctx.vaultToken ≠ ctx.recipientToken) :
    ∃ s' event, ctx.execute s now = .ok (s', event) := by
  obtain ⟨-, hsrc, -, hsrcMint, hsrcProgram, howner⟩ := State.loadCustody_eq_ok.mp hcustody
  obtain ⟨hdst, -, hdstMint, hdstProgram, -⟩ := State.loadOwnedToken_eq_ok.mp hrecipient
  have hprogram' := State.isTokenProgram_of_loadMint hmint
  obtain ⟨token, src', htransfer, hsrc', hafter, hdst', hsum⟩ := State.transferChecked_succeeds
    (x := ⟨ctx.tokenProgram, ctx.vaultToken, ctx.mint, ctx.recipientToken, ctx.vault⟩)
    hsrc hdst hmint hsrcProgram hdstProgram hsrcMint (hdstMint.trans hrequestMint) howner hsends
    hreceives hfunds hroom hne
  simp only [execute, Except.bind_eq_ok_iff, checkTokenProgram_eq_ok, hconfig, hvault, hmint, hasset,
    hrequest, hcustody, hrecipient, hwindow, requireProtocolActive_eq_ok, require_eq_ok,
    Except.ok.injEq, exists_eq_left', exists_const, fetch_eq_ok, UInt64.checkedAdd_eq_some,
    UInt64.checkedSub_eq_some, State.requireBalance_eq_ok, Except.pure_eq_ok_iff, Prod.mk.injEq,
    hactive, hpaused, henabled, Bool.not_false, true_and]
  exact ⟨_, _, hprogram', hprogram, hrequestAsset, hrequestMint, hrequestProgram, hkey, hpending,
    hunlocked, hunexpired, hmax, hfunds, recipient.amount + request.amount, hsum, _, htransfer,
    src'.amount, hafter, ⟨src', hsrc', rfl⟩, ⟨_, hdst', rfl⟩, rfl, rfl⟩

theorem ExecutionReady.execute_ok (hs : Reachable s) {key : Pubkey}
    (hrequest : s.withdrawalRequest key = some request) (h : ExecutionReady s request now)
    (caller : Pubkey) :
    ∃ s' event, (ExecuteWithdrawal.canonical caller key request).execute s now = .ok (s', event) := by
  obtain ⟨hpending, hunlocked, hunexpired, ⟨⟨vault, hvault, hpaused⟩, config, hconfig, hactive⟩,
    ⟨asset, hasset, hmax, hadmits⟩, hfunded, hpayable, account, howner, haccount, hmint, hprogram,
    hroom, hne⟩ := h
  obtain ⟨hassetVault, hassetMint⟩ := hs.asset_fields hasset
  have hwf := hs.vaultAsset hasset
  have hcustody := hs.custody_of_request hrequest
  obtain ⟨balance, frozen, hbalance⟩ := hcustody.account_eq
  obtain ⟨hsends, hreceives⟩ :=
    (hcustody.payable_iff hbalance haccount request.amount).mp hpayable
  obtain ⟨m, hloadMint, -, -, htokenProgram, -⟩ := hcustody.mint_supported.loadMint_eq
  have hassetProgram : asset.tokenProgram = request.tokenProgram := by
    obtain ⟨balance', frozen', hbalance'⟩ := (hs.custody_of_asset hasset).account_eq
    rw [hassetVault, hassetMint, hbalance, Option.some.injEq] at hbalance'
    exact (congrArg TokenAccount.tokenProgram hbalance').symm
  obtain ⟨next, hnext⟩ := (nextWindowState_iff hwf.windowSeconds_nonneg).mpr hadmits
  have hfunds : request.amount ≤ balance := by
    rw [UInt64.le_iff_toNat_le]
    simpa [State.balance, balanceOf, hbalance, TokenAccount.custody] using hfunded
  have hcustodyLoad : s.loadCustody (address (.vaultToken request.vault request.mint))
      (.vaultToken request.vault request.mint) request.vault request.mint request.tokenProgram
      .invalidVaultCustodyBalance .invalidWithdrawalMint = .ok _ :=
    State.loadCustody_eq_ok.mpr ⟨rfl, hbalance, htokenProgram, rfl, rfl, rfl⟩
  have haccountLoad : s.loadOwnedToken request.recipientTokenAccount request.recipientOwner
      request.mint request.tokenProgram .invalidWithdrawalRecipient .invalidWithdrawalMint
        = .ok account :=
    State.loadOwnedToken_eq_ok.mpr ⟨haccount, by rw [hprogram]; exact htokenProgram, hmint, hprogram,
      howner⟩
  exact ExecuteWithdrawal.execute_succeeds (.canonical caller key request)
    (hs.loadProtocolConfig_eq hconfig) hactive (hs.loadVault_eq hvault) hloadMint
    (hs.loadVaultAsset_iff.mpr ⟨rfl, hasset, hassetVault, hassetMint⟩) hassetProgram
    (hs.loadWithdrawalRequest_iff.mpr ⟨hrequest, rfl⟩) (hs.withdrawalRequest hrequest).vaultAsset_eq
    rfl rfl hcustodyLoad rfl haccountLoad hpending hunlocked hunexpired hpaused hwf.enabled hmax
    hsends hreceives hfunds hnext hroom hne.symm

end Execute

section Deposit

def Deposit.canonical (depositor source : Pubkey) (asset : VaultAsset Pubkey) : Deposit Pubkey where
  depositor
  vault := asset.vault
  mint := asset.mint
  vaultAsset := address (.vaultAsset asset.vault asset.mint)
  sourceToken := source
  vaultToken := address (.vaultToken asset.vault asset.mint)
  tokenProgram := asset.tokenProgram

structure DepositReady (s : State Pubkey) (ctx : Deposit Pubkey) (amount : UInt64) : Prop where
  amount_pos : 0 < amount
  source : ∃ account, s.token ctx.sourceToken = some account ∧ account.owner = ctx.depositor ∧
    account.mint = ctx.mint ∧ account.tokenProgram = ctx.tokenProgram ∧ amount ≤ account.amount ∧
    account.Sends amount
  custody_thawed : s.frozen ctx.vaultToken = false
  room : s.balance ctx.vaultToken + amount.toNat < 2 ^ 64
  ne : ctx.sourceToken ≠ ctx.vaultToken

variable {s : State Pubkey} {amount : UInt64} {asset : VaultAsset Pubkey}

theorem Deposit.canonical_of_ok (hs : Reachable s) {ctx : Deposit Pubkey}
    (hasset : s.vaultAsset (address (.vaultAsset ctx.vault ctx.mint)) = some asset)
    {s' : State Pubkey} {event : IronVaultEvent Pubkey}
    (h : ctx.depositTokens s amount = .ok (s', event)) :
    ctx = .canonical ctx.depositor ctx.sourceToken asset ∧ DepositReady s ctx amount := by
  obtain ⟨_, haccepted⟩ := depositTokens_ok h
  obtain ⟨hne, src, src', dst, hsrc, hdst, hdebit, hreceives, hroom, -⟩ := haccepted.moves
  have hcustody := hs.custody_of_asset hasset
  simp only [depositTokens, Except.bind_eq_ok_iff, checkTokenProgram_eq_ok, hs.loadVault_iff,
    hs.loadVaultAsset_iff, State.loadOwnedToken_eq_ok, State.loadCustody_eq_ok, require_eq_ok,
    exists_const] at h
  obtain ⟨-, -, -, mint, -, asset', ⟨hassetKey, hasset', hassetVault, hassetMint⟩, hprogram, source,
    ⟨hsource, -, hsourceMint, hsourceProgram, howner⟩, custody, ⟨hcustodyKey, -⟩, hpos, -, hfunds,
    -⟩ := h
  rw [hasset, Option.some.injEq] at hasset'
  subst hasset'
  rw [hsource, Option.some.injEq] at hsrc
  subst hsrc
  rw [hassetVault, hassetMint, ← hcustodyKey] at hcustody
  constructor
  . cases ctx
    simp only at hassetKey hassetVault hassetMint hcustodyKey hprogram
    simp only [canonical, Deposit.mk.injEq, true_and, hassetVault, hassetMint]
    exact ⟨hassetKey, hcustodyKey, hprogram.symm⟩
  . refine ⟨hpos, ⟨source, hsource, howner, hsourceMint.trans hassetMint, hsourceProgram, hfunds,
      hdebit.sends⟩, (hcustody.receives_iff hdst).mp hreceives, ?_, hne⟩
    simpa [State.balance, balanceOf, hdst] using hroom

end Deposit

section Cancel

variable {s : State Pubkey} {request : WithdrawalRequest Pubkey}

theorem Reachable.vault_of_request (hs : Reachable s) {key : Pubkey}
    (hrequest : s.withdrawalRequest key = some request) :
    ∃ vault, s.vault request.vault = some vault := by
  have htoken : s.token (address (.vaultToken request.vault request.mint)) ≠ none := by
    obtain ⟨balance, frozen, hbalance⟩ := (hs.custody_of_request hrequest).account_eq
    simp [hbalance]
  obtain ⟨asset, hasset, hvault, -⟩ := hs.asset_of_token htoken
  rw [← hvault]
  exact hs.vault_of_asset hasset

def CancelWithdrawal.Intrinsic (ctx : CancelWithdrawal Pubkey) (vault : Vault Pubkey)
    (request : WithdrawalRequest Pubkey) : Prop :=
  ctx.caller = vault.authority ∨ ctx.caller = vault.guardian ∨ ctx.caller = request.proposer

/--
The caller brings what its right to cancel takes: nothing, or the account of its role.
-/
def CancelWithdrawal.Entitled (ctx : CancelWithdrawal Pubkey) (s : State Pubkey)
    (vault : Vault Pubkey) (request : WithdrawalRequest Pubkey) : Prop :=
  (ctx.Intrinsic vault request ∧ ctx.remainingAccounts = []) ∨
    (¬ ctx.Intrinsic vault request ∧
      ctx.remainingAccounts = [address (.role request.vault ctx.caller)] ∧
      s.HoldsRole request.vault ctx.caller permissionCancelWithdrawal)

theorem CancelWithdrawal.cancel_iff (hs : Reachable s) (ctx : CancelWithdrawal Pubkey)
    (hrequest : s.withdrawalRequest ctx.withdrawalRequest = some request) :
    (∃ s' event, ctx.cancel s = .ok (s', event)) ↔
      ctx.vault = request.vault ∧ request.status = .pending ∧
        ∃ vault, s.vault request.vault = some vault ∧ ctx.Entitled s vault request := by
  simp only [cancel, authorize, Except.bind_eq_ok_iff, hs.loadVault_iff,
    hs.loadWithdrawalRequest_iff, require_eq_ok, State.authorize_eq_ok, decide_eq_true_eq,
    decide_eq_false_iff_not, exists_const, Except.pure_eq_ok_iff, Prod.mk.injEq]
  constructor
  . rintro ⟨_, _, vault, hvault, request', ⟨hlookup, hkey⟩, hpending, hauthorized, -⟩
    rw [hrequest, Option.some.injEq] at hlookup
    subst hlookup
    rw [← hkey] at hvault hauthorized
    exact ⟨hkey.symm, hpending, vault, hvault, hauthorized⟩
  . rintro ⟨hkey, hpending, vault, hvault, hentitled⟩
    rw [← hkey] at hvault
    simp only [Entitled, ← hkey] at hentitled
    exact ⟨_, _, vault, hvault, request, ⟨hrequest, hkey.symm⟩, hpending, hentitled, rfl, rfl⟩

end Cancel

/--
A request can be executed by anyone, with its own accounts and no others, and exactly when its time
has come, the outflow of the vault is open, the limits of today and the funds allow it and the
recipient can take it.
-/
theorem execute_withdrawal_exact {s : State Pubkey} (hs : Reachable s)
    (ctx : ExecuteWithdrawal Pubkey) {request : WithdrawalRequest Pubkey}
    (hrequest : s.withdrawalRequest ctx.withdrawalRequest = some request) (now : Int64) :
    (∃ result, process s now (.executeWithdrawal ctx) = .ok result) ↔
      ctx = .canonical ctx.caller ctx.withdrawalRequest request ∧ ExecutionReady s request now := by
  constructor
  . rintro ⟨⟨s', event⟩, h⟩
    obtain ⟨event, -, h⟩ := process.emit_eq_ok.mp h
    exact ctx.canonical_of_ok hs hrequest h
  . rintro ⟨hctx, hready⟩
    obtain ⟨s', event, h⟩ := hready.execute_ok hs hrequest ctx.caller
    rw [← hctx] at h
    exact ⟨(s', some event), process.emit_eq_ok.mpr ⟨event, rfl, h⟩⟩

open Scenario in
theorem execute_withdrawal_exact_requested :
    ∃ request, (start.final requested).withdrawalRequest (.withdrawal vault 0) = some request ∧
      ExecutionReady (start.final requested) request 16 ∧
      ¬ ExecutionReady (start.final requested) request 15 := by
  obtain ⟨request, hrequest⟩ : ∃ request,
      (start.final requested).withdrawalRequest (.withdrawal vault 0) = some request := ⟨_, rfl⟩
  have hs : Reachable (start.final requested) := ⟨_, history_requested⟩
  refine ⟨request, hrequest, ?_, ?_⟩
  . apply ((execute_withdrawal_exact hs
      ⟨recipient, .protocol, vault, mint, vaultAsset, .withdrawal vault 0, vaultToken, recipientToken,
        tokenProgram⟩ hrequest 16).mp _).2
    exact ⟨_, rfl⟩
  . intro h
    have hunlocked := h.unlocked
    cases hrequest
    revert hunlocked
    decide +kernel

/--
A pending request can be cancelled at any time and under every pause, by the authority, the guardian,
its proposer and the holders of the permission, and by nobody else.
-/
theorem cancel_withdrawal_exact {s : State Pubkey} (hs : Reachable s)
    (ctx : CancelWithdrawal Pubkey) {request : WithdrawalRequest Pubkey}
    (hrequest : s.withdrawalRequest ctx.withdrawalRequest = some request) (now : Int64) :
    (∃ vault, s.vault request.vault = some vault) ∧
      ((∃ result, process s now (.cancelWithdrawal ctx) = .ok result) ↔
        ctx.vault = request.vault ∧ request.status = .pending ∧
          ∃ vault, s.vault request.vault = some vault ∧ ctx.Entitled s vault request) := by
  refine ⟨hs.vault_of_request hrequest, ?_⟩
  rw [← ctx.cancel_iff hs hrequest]
  constructor
  . rintro ⟨⟨s', event⟩, h⟩
    obtain ⟨event, -, h⟩ := process.emit_eq_ok.mp h
    exact ⟨s', event, h⟩
  . rintro ⟨s', event, h⟩
    exact ⟨(s', some event), process.emit_eq_ok.mpr ⟨event, rfl, h⟩⟩

open Scenario in
theorem cancel_withdrawal_exact_guardian :
    ∃ result, process (start.final requested) 1000
      (.cancelWithdrawal ⟨guardian, vault, .withdrawal vault 0, []⟩) = .ok result := by
  apply (cancel_withdrawal_exact ⟨_, history_requested⟩ _ rfl 1000).2.mpr
  refine ⟨rfl, rfl, _, rfl, .inl ⟨.inr (.inl rfl), rfl⟩⟩

end IronVault
