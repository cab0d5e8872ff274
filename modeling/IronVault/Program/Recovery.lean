import IronVault.Program.Lemmas.Success
import IronVault.Program.Window

/-!
This module contains when the authority of a vault can get funds out by fixing the policy first. The
token program must not refuse the accounts, and the end of the window must be representable: both
`update_limits` and `withdraw` compute the end of the current window with a checked addition, so a
window whose end is not representable blocks them for ever.
-/

namespace IronVault

variable {Pubkey : Type} [DecidableEq Pubkey] [Solana Pubkey]

open Solana

theorem UpdateLimits.update_succeeds (ctx : UpdateLimits Pubkey) {s : State Pubkey}
    {policy : Policy} {now : Int64} {config : ProtocolConfig Pubkey} {vault : Vault Pubkey}
    {asset : VaultAsset Pubkey} {mint : Mint Pubkey} {window : Int64 × UInt64}
    (hconfig : s.loadProtocolConfig ctx.protocolConfig = .ok config)
    (hactive : config.isPaused pauseVaultConfig = false)
    (hvault : s.loadVault ctx.vault = .ok vault)
    (hasset : s.loadVaultAsset ctx.vaultAsset ctx.vault ctx.mint = .ok asset)
    (hmint : s.loadMint ctx.mint asset.tokenProgram = .ok mint)
    (hcaller : ctx.caller = vault.authority) (hremaining : ctx.remainingAccounts = [])
    (hvalid : policy.Valid) (hwindow : nextWindow asset policy.windowSeconds now = .ok window) :
    ∃ event, ctx.update s policy now = .ok ({ s with
      vaultAsset := Function.update s.vaultAsset ctx.vaultAsset
        (some (asset.withPolicy policy window)) }, event) := by
  have hauthorized : s.authorize (ctx.caller = vault.authority) ctx.remainingAccounts ctx.vault
      ctx.caller permissionManageLimits .unexpectedLimitAccounts .missingVaultPermission
        = .ok () := by
    rw [State.authorize_eq_ok]
    exact .inl ⟨by simpa using hcaller, hremaining⟩
  simp only [update, Except.bind_eq_ok_iff, authorize, hconfig, hvault, hasset, hmint, hwindow,
    hauthorized, requireProtocolActive_eq_ok, require_eq_ok, Except.ok.injEq, exists_eq_left',
    exists_const, hactive, Except.pure_eq_ok_iff, Prod.mk.injEq, true_and]
  exact ⟨_, hvalid, rfl, rfl⟩

theorem Withdraw.withdrawTokens_succeeds (ctx : Withdraw Pubkey) {s : State Pubkey}
    {amount : UInt64} {now : Int64} {config : ProtocolConfig Pubkey} {vault : Vault Pubkey}
    {asset : VaultAsset Pubkey} {mint : Mint Pubkey} {custody destination : TokenAccount Pubkey}
    {next : Int64 × UInt64} (hconfig : s.loadProtocolConfig ctx.protocolConfig = .ok config)
    (hactive : config.isPaused pauseVaultOutflow = false)
    (hvault : s.loadVault ctx.vault = .ok vault)
    (hmint : s.loadMint ctx.mint ctx.tokenProgram = .ok mint)
    (hasset : s.loadVaultAsset ctx.vaultAsset ctx.vault ctx.mint = .ok asset)
    (hprogram : asset.tokenProgram = ctx.tokenProgram)
    (hcustody : s.loadCustody ctx.vaultToken (.vaultToken ctx.vault ctx.mint) ctx.vault asset.mint
      ctx.tokenProgram .invalidVaultCustodyBalance .invalidWithdrawalDestinationMint = .ok custody)
    (hdestination : s.loadToken ctx.destinationToken asset.mint ctx.tokenProgram
      .invalidWithdrawalDestinationMint = .ok destination)
    (hcaller : ctx.caller = vault.authority) (hremaining : ctx.remainingAccounts = [])
    (hpos : 0 < amount) (hpaused : vault.paused = false) (henabled : asset.enabled = true)
    (hmax : amount ≤ asset.maxPerTransaction) (hthreshold : amount ≤ asset.timelockThreshold)
    (hsends : custody.Sends amount) (hreceives : destination.Receives)
    (hfunds : amount ≤ custody.amount) (hwindow : nextWindowState asset amount now = .ok next)
    (hroom : destination.amount.toNat + amount.toNat < 2 ^ 64)
    (hne : ctx.vaultToken ≠ ctx.destinationToken) :
    ∃ s' event, ctx.withdrawTokens s amount now = .ok (s', event) := by
  have hauthorized : s.authorize (ctx.caller = vault.authority) ctx.remainingAccounts ctx.vault
      ctx.caller permissionWithdraw .unexpectedWithdrawalAccounts .missingVaultPermission
        = .ok () := by
    rw [State.authorize_eq_ok]
    exact .inl ⟨by simpa using hcaller, hremaining⟩
  obtain ⟨-, hsrc, -, hsrcMint, hsrcProgram, howner⟩ := State.loadCustody_eq_ok.mp hcustody
  obtain ⟨hdst, -, hdstMint, hdstProgram⟩ := State.loadToken_eq_ok.mp hdestination
  have hassetMint := (State.loadVaultAsset_eq_ok.mp hasset).2.2.2
  have hprogram' := State.isTokenProgram_of_loadMint hmint
  obtain ⟨token, src', htransfer, hsrc', hafter, hdst', hsum⟩ := State.transferChecked_succeeds
    (x := ⟨ctx.tokenProgram, ctx.vaultToken, ctx.mint, ctx.destinationToken, ctx.vault⟩)
    hsrc hdst hmint hsrcProgram hdstProgram (hsrcMint.trans hassetMint) (hdstMint.trans hassetMint)
    howner hsends hreceives hfunds hroom hne
  simp only [withdrawTokens, Except.bind_eq_ok_iff, checkTokenProgram_eq_ok, hconfig, hvault, hmint,
    hasset, hcustody, hdestination, hauthorized, hwindow, requireProtocolActive_eq_ok, require_eq_ok,
    Except.ok.injEq, exists_eq_left', exists_const, fetch_eq_ok, UInt64.checkedAdd_eq_some,
    UInt64.checkedSub_eq_some, State.requireBalance_eq_ok, Except.pure_eq_ok_iff, Prod.mk.injEq,
    hactive, hpaused, henabled, Bool.not_false, true_and]
  exact ⟨_, _, hprogram', hprogram, hpos, hmax, hthreshold, hfunds, destination.amount + amount,
    hsum, _, htransfer, src'.amount, hafter, ⟨src', hsrc', rfl⟩, ⟨_, hdst', rfl⟩, rfl, rfl⟩

def VaultAsset.WindowFits (asset : VaultAsset Pubkey) : Prop :=
  asset.windowStartedAt.toInt + asset.windowSeconds.toInt < 2 ^ 63

section Window

variable {asset : VaultAsset Pubkey} {amount : UInt64} {now : Int64}

omit [DecidableEq Pubkey] [Solana Pubkey] in
theorem nextWindowState_fits {next : Int64 × UInt64}
    (h : nextWindowState asset amount now = .ok next) (hne : asset.windowSeconds ≠ 0) :
    asset.WindowFits := by
  unfold nextWindowState at h
  rw [if_neg hne] at h
  simp only [Except.bind_eq_ok_iff, require_eq_ok, fetch_eq_ok, Int64.checkedAdd_eq_some,
    exists_const] at h
  obtain ⟨-, ends, hends, -⟩ := h
  have := ends.toInt_lt
  rw [VaultAsset.WindowFits]
  omega

omit [DecidableEq Pubkey] [Solana Pubkey] in
theorem nextWindowState_succeeds (hpos : 0 < asset.windowSeconds) (hfits : asset.WindowFits)
    (hlimit : amount ≤ asset.windowLimit)
    (hspent : asset.windowSpent = 0 ∨
      asset.windowStartedAt.toInt + asset.windowSeconds.toInt ≤ now.toInt) :
    ∃ next, nextWindowState asset amount now = .ok next := by
  have hne : asset.windowSeconds ≠ 0 := by
    intro hzero
    simp [hzero] at hpos
  have hpos' := Int64.lt_iff_toInt_lt.mp hpos
  have hlow := asset.windowStartedAt.le_toInt
  rw [VaultAsset.WindowFits] at hfits
  have hends : (Int64.ofInt (asset.windowStartedAt.toInt + asset.windowSeconds.toInt)).toInt
      = asset.windowStartedAt.toInt + asset.windowSeconds.toInt := by
    apply Int64.toInt_ofInt_of_le
    . simp at hpos'
      omega
    . omega
  unfold nextWindowState
  rw [if_neg hne]
  simp only [Except.bind_eq_ok_iff, require_eq_ok, fetch_eq_ok, Int64.checkedAdd_eq_some,
    UInt64.checkedAdd_eq_some, Except.pure_eq_ok_iff, exists_const]
  refine ⟨_, hpos, _, hends, amount, ?_, hlimit, rfl⟩
  split
  . simp
  . next hlive =>
    rw [Int64.le_iff_toInt_le, hends] at hlive
    rcases hspent with hspent | hspent
    . simp [hspent]
    . exact absurd hspent hlive

omit [DecidableEq Pubkey] [Solana Pubkey] in
theorem UpdateLimits.nextWindow_fits {windowSeconds : Int64} {window : Int64 × UInt64}
    (h : nextWindow asset windowSeconds now = .ok window) (hpos : 0 < windowSeconds)
    (hfits : window.1.toInt + windowSeconds.toInt < 2 ^ 63) :
    (asset.windowSeconds = 0 → now < Int64.maxValue) ∧
      (asset.windowSeconds ≠ 0 → asset.WindowFits) := by
  have hpos' := Int64.lt_iff_toInt_lt.mp hpos
  rcases nextWindow_ok h with ⟨hzero, rfl⟩ | ⟨hne, -, hend, -⟩ | ⟨hne, rfl, rfl⟩
  . refine ⟨fun _ => ?_, fun hne => absurd hzero hne⟩
    rw [Int64.lt_iff_toInt_lt]
    simp [Int64.toInt_maxValue] at hpos' hfits ⊢
    omega
  . refine ⟨fun hzero => absurd hzero hne, fun _ => ?_⟩
    have := now.toInt_lt
    rw [VaultAsset.WindowFits]
    omega
  . exact ⟨fun hzero => absurd hzero hne, fun _ => hfits⟩

end Window

def Recoverable (s : State Pubkey) (v m destination : Pubkey) (amount : UInt64) (now : Int64) :
    Prop :=
  ∃ vault, s.vault v = some vault ∧
    ∃ (ctx : UpdateLimits Pubkey) (policy : Policy) (t₁ t₂ : Int64) (s₁ s₂ : State Pubkey)
      (event₁ event₂ : Option (IronVaultEvent Pubkey)) (ctx' : Withdraw Pubkey),
      now ≤ t₁ ∧ t₁ ≤ t₂ ∧
      ctx.caller = vault.authority ∧ ctx.vault = v ∧ ctx.mint = m ∧
      process s t₁ (.updateLimits ctx policy) = .ok (s₁, event₁) ∧
      ctx'.caller = vault.authority ∧ ctx'.vault = v ∧ ctx'.mint = m ∧
      ctx'.destinationToken = destination ∧
      process s₁ t₂ (.withdraw ctx' amount) = .ok (s₂, event₂)

/--
What the recovery of `amount` takes for granted: the vault and the protocol are not paused, custody
holds the amount, and `destination` is another account of the mint with room for it.
-/
structure RecoveryReady (s : State Pubkey) (v m destination : Pubkey) (amount : UInt64)
    (asset : VaultAsset Pubkey) : Prop where
  asset_eq : s.vaultAsset (address (.vaultAsset v m)) = some asset
  vault_unpaused : ∃ vault, s.vault v = some vault ∧ vault.paused = false
  flags_clear : ∃ config, s.protocolConfig (address .protocol) = some config ∧
    config.pauseFlags = 0
  amount_pos : 0 < amount
  amount_le : amount.toNat ≤ s.balance (address (.vaultToken v m))
  destination_ne : destination ≠ address (.vaultToken v m)
  destination_room : ∃ account, s.token destination = some account ∧ account.mint = m ∧
    account.tokenProgram = asset.tokenProgram ∧ account.amount.toNat + amount.toNat < 2 ^ 64

instance {s : State Pubkey} {v m destination : Pubkey} {amount : UInt64}
    {asset : VaultAsset Pubkey} : Decidable (RecoveryReady s v m destination amount asset) :=
  decidable_of_iff
    (s.vaultAsset (address (.vaultAsset v m)) = some asset ∧ (s.vault v).any (!·.paused) ∧
      (s.protocolConfig (address .protocol)).any (·.pauseFlags = 0) ∧ 0 < amount ∧
      amount.toNat ≤ s.balance (address (.vaultToken v m)) ∧
      destination ≠ address (.vaultToken v m) ∧
      (s.token destination).any fun account => account.mint = m ∧
        account.tokenProgram = asset.tokenProgram ∧
        account.amount.toNat + amount.toNat < 2 ^ 64) (by
    simp only [Option.any_eq_true, Bool.not_eq_true', decide_eq_true_eq]
    constructor
    . rintro ⟨hasset, hvault, hconfig, hpos, hle, hne, hroom⟩
      exact ⟨hasset, hvault, hconfig, hpos, hle, hne, hroom⟩
    . rintro ⟨hasset, hvault, hconfig, hpos, hle, hne, hroom⟩
      exact ⟨hasset, hvault, hconfig, hpos, hle, hne, hroom⟩)

section Recoverable

variable {s : State Pubkey} {v m destination : Pubkey} {amount : UInt64} {asset : VaultAsset Pubkey}
  {now : Int64}

theorem Recoverable.fits (hs : Reachable s)
    (hasset : s.vaultAsset (address (.vaultAsset v m)) = some asset)
    (h : Recoverable s v m destination amount now) :
    (asset.windowSeconds = 0 → now < Int64.maxValue) ∧
      (asset.windowSeconds ≠ 0 → asset.WindowFits) := by
  obtain ⟨vault, -, ctx, policy, t₁, t₂, s₁, s₂, event₁, event₂, ctx', hnow, -, -, hvault, hmint,
    hupdate, -, hvault', hmint', -, hwithdraw⟩ := h
  obtain ⟨_, -, _, old, window, haccepted⟩ := process_accepted hupdate
  have hkey : ctx.vaultAsset = address (.vaultAsset v m) :=
    hs.asset_key haccepted.asset_eq (haccepted.asset_vault.trans hvault)
      (haccepted.asset_mint.trans hmint)
  have hold : old = asset := by
    have := haccepted.asset_eq
    rw [hkey, hasset, Option.some.injEq] at this
    exact this.symm
  subst hold
  obtain ⟨_, -, _, new, next, haccepted'⟩ := process_accepted hwithdraw
  have hout := haccepted'.outflow
  -- the asset that is charged is the one whose policy was replaced
  have hnew : new = old.withPolicy policy window := by
    have hlookup := hout.asset_eq
    rw [haccepted.post_eq, Function.update_some_eq_some] at hlookup
    rcases hlookup with ⟨-, heq⟩ | ⟨hne, hlookup⟩
    . exact heq.symm
    . have hkey' := hs.asset_key hlookup (hout.asset_vault.trans hvault')
        (hout.asset_mint.trans hmint')
      exact absurd (hkey'.trans hkey.symm) hne
  subst hnew
  have hpos : 0 < policy.windowSeconds := haccepted.valid.2.2.1
  have hne : policy.windowSeconds ≠ 0 := by
    intro hzero
    simp [hzero] at hpos
  have hfits := nextWindowState_fits hout.window_ok hne
  have hold := UpdateLimits.nextWindow_fits haccepted.window_ok hpos hfits
  refine ⟨fun hzero => ?_, hold.2⟩
  have hlt := hold.1 hzero
  rw [Int64.lt_iff_toInt_lt] at hlt ⊢
  rw [Int64.le_iff_toInt_le] at hnow
  omega

theorem Recoverable.payable (hs : Reachable s)
    (hasset : s.vaultAsset (address (.vaultAsset v m)) = some asset) (hpos : 0 < amount)
    (h : Recoverable s v m destination amount now) :
    s.Payable (address (.vaultToken v m)) destination := by
  obtain ⟨vault, -, ctx, policy, t₁, t₂, s₁, s₂, event₁, event₂, ctx', -, -, -, -, -, hupdate, -,
    hvault, hmint, hdestination, hwithdraw⟩ := h
  obtain ⟨_, -, _, _, _, hupdated⟩ := process_accepted hupdate
  obtain ⟨_, -, _, _, _, hwithdrawn⟩ := process_accepted hwithdraw
  have hmoves := hwithdrawn.outflow.moves hpos
  -- the policy update leaves the token accounts alone
  rw [hwithdrawn.outflow.custody_eq, hvault, hmint, hdestination, hupdated.post_eq] at hmoves
  have hcustody := hs.custody_of_asset hasset
  rw [(hs.asset_fields hasset).1, (hs.asset_fields hasset).2] at hcustody
  exact hcustody.payable_of_moves hmoves

theorem RecoveryReady.recoverable (hs : Reachable s)
    (h : RecoveryReady s v m destination amount asset)
    (hpayable : s.Payable (address (.vaultToken v m)) destination) (seconds t : Int64)
    (window : Int64 × UInt64) (hnow : now ≤ t) (hseconds : 0 < seconds)
    (hwindow : UpdateLimits.nextWindow asset seconds t = .ok window)
    (hfits : window.1.toInt + seconds.toInt < 2 ^ 63)
    (hspent : window.2 = 0 ∨ window.1.toInt + seconds.toInt ≤ t.toInt) :
    Recoverable s v m destination amount now := by
  obtain ⟨hasset, ⟨vault, hvault, hpaused⟩, ⟨config, hconfig, hflags⟩, hpos, hle, hne,
    ⟨account, haccount, hmint, hprogram, hroom⟩⟩ := h
  have hactive (flag : UInt32) : config.isPaused flag = false := by
    simp [ProtocolConfig.isPaused, hflags]
  have hwf := hs.vaultAsset hasset
  obtain ⟨rfl, rfl⟩ := hs.asset_fields hasset
  have hcustody := hs.custody_of_asset hasset
  obtain ⟨balance, frozen, hbalance⟩ := hcustody.account_eq
  obtain ⟨hsends, hreceives⟩ := (hcustody.payable_iff hbalance haccount amount).mp hpayable
  obtain ⟨mint, hloadMint, -, -, htokenProgram, -⟩ := hcustody.mint_supported.loadMint_eq
  let policy : Policy := ⟨u64Max, u64Max, seconds, u64Max, 1, 1⟩
  have hbound (x : UInt64) : x ≤ u64Max := by
    rw [UInt64.le_iff_toNat_le]
    have := x.toNat_lt
    simp [u64Max]
    omega
  have hvalid : policy.Valid := by
    refine ⟨by simp [policy, u64Max], by simp [policy, u64Max], hseconds, hbound _, hbound _, ?_, ?_⟩
    . simp [policy]
    . simp [policy]
  obtain ⟨event₁, hupdate⟩ := UpdateLimits.update_succeeds
    ⟨vault.authority, address .protocol, asset.vault, asset.mint,
      address (.vaultAsset asset.vault asset.mint), []⟩
    (hs.loadProtocolConfig_eq hconfig) (hactive _) (hs.loadVault_eq hvault)
    (hs.loadVaultAsset_eq hasset) hloadMint rfl rfl hvalid hwindow
  let s₁ : State Pubkey := { s with
    vaultAsset := Function.update s.vaultAsset (address (.vaultAsset asset.vault asset.mint))
      (some (asset.withPolicy policy window)) }
  have hasset' : s₁.loadVaultAsset (address (.vaultAsset asset.vault asset.mint)) asset.vault
      asset.mint = .ok (asset.withPolicy policy window) := by
    rw [State.loadVaultAsset_eq_ok]
    exact ⟨Function.update_self .., hwf.canonical.create_eq, rfl, rfl⟩
  have hcustody' : s.loadCustody (address (.vaultToken asset.vault asset.mint))
      (.vaultToken asset.vault asset.mint) asset.vault asset.mint asset.tokenProgram
      .invalidVaultCustodyBalance .invalidWithdrawalDestinationMint = .ok _ :=
    State.loadCustody_eq_ok.mpr ⟨rfl, hbalance, htokenProgram, rfl, rfl, rfl⟩
  have hdestination : s.loadToken destination asset.mint asset.tokenProgram
      .invalidWithdrawalDestinationMint = .ok account :=
    State.loadToken_eq_ok.mpr ⟨haccount, by rw [hprogram]; exact htokenProgram, hmint, hprogram⟩
  have hfunds : amount ≤ balance := by
    rw [UInt64.le_iff_toNat_le]
    simpa [State.balance, balanceOf, hbalance, TokenAccount.custody] using hle
  obtain ⟨next, hnext⟩ : ∃ next, nextWindowState (asset.withPolicy policy window) amount t = .ok next :=
    nextWindowState_succeeds hseconds hfits (hbound _) hspent
  obtain ⟨s₂, event₂, hwithdraw⟩ := Withdraw.withdrawTokens_succeeds (s := s₁)
    ⟨vault.authority, address .protocol, asset.vault, asset.mint,
      address (.vaultAsset asset.vault asset.mint), address (.vaultToken asset.vault asset.mint),
      destination, asset.tokenProgram, []⟩
    (hs.loadProtocolConfig_eq hconfig) (hactive _) (hs.loadVault_eq hvault) hloadMint hasset' rfl
    hcustody' hdestination rfl rfl hpos hpaused hwf.enabled (hbound _) (hbound _) hsends hreceives
    hfunds hnext hroom (Ne.symm hne)
  refine ⟨vault, hvault, _, policy, t, t, _, s₂, some event₁, some event₂, _, hnow, ?_, rfl, rfl, rfl,
    process.emit_eq_ok.mpr ⟨event₁, rfl, hupdate⟩, rfl, rfl, rfl, rfl,
    process.emit_eq_ok.mpr ⟨event₂, rfl, hwithdraw⟩⟩
  simp

theorem RecoveryReady.recoverable_iff (h : RecoveryReady s v m destination amount asset)
    (now : Int64) (hs : Reachable s) :
    Recoverable s v m destination amount now ↔
      ((asset.windowSeconds = 0 → now < Int64.maxValue) ∧
        (asset.windowSeconds ≠ 0 → asset.WindowFits)) ∧
      s.Payable (address (.vaultToken v m)) destination := by
  refine ⟨fun hrecoverable => ⟨hrecoverable.fits hs h.asset_eq,
    hrecoverable.payable hs h.asset_eq h.amount_pos⟩, fun ⟨⟨hunset, hset⟩, hpayable⟩ => ?_⟩
  by_cases hzero : asset.windowSeconds = 0
  . have hlt := Int64.lt_iff_toInt_lt.mp (hunset hzero)
    rw [Int64.toInt_maxValue] at hlt
    apply h.recoverable hs hpayable 1 now (now, 0)
    . simp
    . decide
    . simp [UpdateLimits.nextWindow, hzero, pure, Except.pure]
    . simp
      omega
    . exact .inl rfl
  . have hfits := hset hzero
    have hpos := (hs.vaultAsset h.asset_eq).windowSeconds_nonneg.resolve_left hzero
    have hpos' := Int64.lt_iff_toInt_lt.mp hpos
    simp only [VaultAsset.WindowFits, Int64.toInt_zero] at hfits hpos'
    have hlow := asset.windowStartedAt.le_toInt
    have hends : (Int64.ofInt (asset.windowStartedAt.toInt + asset.windowSeconds.toInt)).toInt
        = asset.windowStartedAt.toInt + asset.windowSeconds.toInt :=
      Int64.toInt_ofInt_of_le (by omega) hfits
    -- the first clock value that is neither before `now` nor before the end of the window
    obtain ⟨t, hnow, hend⟩ : ∃ t : Int64, now ≤ t ∧
        asset.windowStartedAt.toInt + asset.windowSeconds.toInt ≤ t.toInt := by
      by_cases hle : asset.windowStartedAt.toInt + asset.windowSeconds.toInt ≤ now.toInt
      . exact ⟨now, by simp, hle⟩
      . refine ⟨Int64.ofInt (asset.windowStartedAt.toInt + asset.windowSeconds.toInt), ?_, ?_⟩
        . rw [Int64.le_iff_toInt_le]
          omega
        . exact Int.le_of_eq hends.symm
    apply h.recoverable hs hpayable asset.windowSeconds t (asset.windowStartedAt, asset.windowSpent)
      hnow hpos
    . simp [UpdateLimits.nextWindow, hzero, pure, Except.pure]
    . exact hfits
    . exact .inr hend

end Recoverable

def WindowEndsInRange (key : Pubkey) (t : Transition (State Pubkey) (Action Pubkey)) : Prop :=
  ∀ asset ix now, t.pre.vaultAsset key = some asset → t.action = .instruction ix now →
    (∀ ctx policy, ix = .updateLimits ctx policy → ctx.vaultAsset = key →
      now.toInt + policy.windowSeconds.toInt < 2 ^ 63) ∧
    (∀ amount, ix.charge t.pre = some (key, amount) →
      now.toInt + asset.windowSeconds.toInt < 2 ^ 63)

section Runs

variable {s s' : State Pubkey} {a : Action Pubkey} {key : Pubkey} {asset : VaultAsset Pubkey}

theorem Step.windowFits (hstep : Step s a s') (hasset : s.vaultAsset key = some asset)
    (hfits : asset.windowSeconds ≠ 0 → asset.WindowFits)
    (hrange : SetsWindow key ⟨s, a, s'⟩ → WindowEndsInRange key ⟨s, a, s'⟩) :
    ∃ asset', s'.vaultAsset key = some asset' ∧
      (asset'.windowSeconds ≠ 0 → asset'.WindowFits) := by
  cases hstep.asset_evolves hasset with
  | idle _ hpost => exact ⟨asset, hpost, hfits⟩
  | @updated ctx policy now _ _ _ window hkey h hpost =>
    refine ⟨_, hpost, fun _ => ?_⟩
    have hsets (hdue : asset.windowSeconds = 0 ∨ asset.windowSeconds ≠ policy.windowSeconds) :
        now.toInt + policy.windowSeconds.toInt < 2 ^ 63 :=
      (hrange ⟨asset, _, now, hasset, rfl, .inl ⟨ctx, policy, rfl, hkey, hdue⟩⟩ asset _ now hasset
        rfl).1 ctx policy rfl hkey
    rcases UpdateLimits.nextWindow_ok h.window_ok with
      ⟨hzero, rfl⟩ | ⟨-, hne, -, rfl⟩ | ⟨hne, heq, rfl⟩
    . exact hsets (.inl hzero)
    . exact hsets (.inr hne)
    . have hold := hfits hne
      simp only [VaultAsset.WindowFits, VaultAsset.withPolicy] at hold ⊢
      rw [← heq]
      exact hold
  | @charged ix now _ amount next hcharge hwindow hpost =>
    refine ⟨_, hpost, fun hne => ?_⟩
    have hold := hfits hne
    rcases nextWindowState_ok hwindow with ⟨-, rfl⟩ | ⟨-, -, ⟨hend, rfl⟩ | ⟨-, hstart, -⟩⟩
    . exact hold
    . exact (hrange ⟨asset, ix, now, hasset, rfl, .inr ⟨amount, hcharge, hne, hend⟩⟩ asset ix now
        hasset rfl).2 amount hcharge
    . simp only [VaultAsset.WindowFits] at hold ⊢
      rw [hstart]
      exact hold

theorem History.windowFits {tr : List (Transition (State Pubkey) (Action Pubkey))}
    (h : History tr s) (hrange : ∀ t ∈ tr, SetsWindow key t → WindowEndsInRange key t)
    (hasset : s.vaultAsset key = some asset) : asset.windowSeconds ≠ 0 → asset.WindowFits := by
  induction h generalizing asset with
  | nil => simp [State.empty] at hasset
  | @snoc tr s s' a run hstep ih =>
    cases hold : s.vaultAsset key with
    | none => exact fun hne => absurd (hstep.unconfigured_of_none hold hasset).windowSeconds hne
    | some old =>
      have hfits := ih (fun t ht => hrange t (List.mem_append_left _ ht)) hold
      obtain ⟨asset', hasset', hfits'⟩ := hstep.windowFits hold hfits (hrange _ (by simp))
      rw [hasset, Option.some.injEq] at hasset'
      rw [hasset']
      exact hfits'

end Runs

theorem custody_recoverable {tr : List (Transition (State Pubkey) (Action Pubkey))}
    {s : State Pubkey} {v m destination : Pubkey} {amount : UInt64} {asset : VaultAsset Pubkey}
    (h : History tr s) (hready : RecoveryReady s v m destination amount asset) (now : Int64) :
    (Recoverable s v m destination amount now ↔
      ((asset.windowSeconds = 0 → now < Int64.maxValue) ∧
        (asset.windowSeconds ≠ 0 → asset.WindowFits)) ∧
      s.Payable (address (.vaultToken v m)) destination) ∧
    ((∀ t ∈ tr, SetsWindow (address (.vaultAsset v m)) t →
        WindowEndsInRange (address (.vaultAsset v m)) t) →
      (asset.windowSeconds = 0 → now < Int64.maxValue) →
      s.Payable (address (.vaultToken v m)) destination →
        Recoverable s v m destination amount now) := by
  have hiff := hready.recoverable_iff now ⟨tr, h⟩
  refine ⟨hiff, fun hrange hnow hpayable => hiff.mpr ⟨⟨hnow, ?_⟩, hpayable⟩⟩
  exact h.windowFits hrange hready.asset_eq

namespace Scenario

def configured (windowSeconds : Int64) : List (Instruction Key × Int64) :=
  setup ++ [(.updateLimits ⟨authority, .protocol, vault, mint, vaultAsset, []⟩
    { policy with windowSeconds }, 4)]

def configuredAsset (windowSeconds : Int64) : VaultAsset Key where
  vault
  mint
  tokenProgram
  maxPerTransaction := policy.maxPerTransaction
  windowLimit := policy.windowLimit
  windowSeconds
  windowStartedAt := 4
  windowSpent := 0
  timelockThreshold := policy.timelockThreshold
  timelockSeconds := policy.timelockSeconds
  requestExecutionWindowSeconds := policy.requestExecutionWindowSeconds
  enabled := true
  bump := 255
  reserved := .replicate 30 0

end Scenario

open Scenario in
theorem custody_not_recoverable :
    ¬ ∀ (tr : List (Transition (State Key) (Action Key))) (s : State Key) (v m destination : Key)
      (amount : UInt64) (asset : VaultAsset Key) (now : Int64), History tr s →
      (∀ t ∈ tr, ∀ clock ∈ t.action.clock, 0 ≤ clock ∧ clock ≤ now) →
      RecoveryReady s v m destination amount asset →
        Recoverable s v m destination amount now := by
  intro h
  have hhistory := history_trace (configured Int64.maxValue) (by decide +kernel)
  have hready : RecoveryReady (start.final (configured Int64.maxValue)) vault mint recipientToken 1
      (configuredAsset Int64.maxValue) := by decide +kernel
  have hall : (trace (configured Int64.maxValue)).all fun t =>
      t.action.clock.all fun clock => 0 ≤ clock ∧ clock ≤ 4 := by decide +kernel
  have hclocks : ∀ t ∈ trace (configured Int64.maxValue), ∀ clock ∈ t.action.clock,
      0 ≤ clock ∧ clock ≤ 4 := by
    intro t ht clock hclock
    have hclock' := List.all_eq_true.mp hall t ht
    rw [Option.mem_def.mp hclock] at hclock'
    simpa using hclock'
  have hrecoverable := h _ _ _ _ _ _ _ 4 hhistory hclocks hready
  have hfits := (hrecoverable.fits ⟨_, hhistory⟩ hready.asset_eq).2 (by decide)
  exact absurd hfits (by unfold VaultAsset.WindowFits; decide)

open Scenario in
theorem custody_recoverable_configured :
    Recoverable (start.final (configured 100)) vault mint recipientToken 1 4 := by
  have hhistory := history_trace (configured 100) (by decide +kernel)
  have hready : RecoveryReady (start.final (configured 100)) vault mint recipientToken 1
      (configuredAsset 100) := by decide +kernel
  apply (custody_recoverable hhistory hready 4).1.mpr
  refine ⟨⟨by decide, fun _ => ?_⟩, by decide +kernel⟩
  unfold VaultAsset.WindowFits
  decide

end IronVault
