import IronVault.Program.Lemmas.Failure
import IronVault.Program.Lemmas.Request
import IronVault.Program.Lemmas.Window
import IronVault.Program.Symbolic

/-!
This module contains that the policy of an asset is never half configured. An asset keeps the policy
of its registration, which stands for "no limits and no timelock", until `update_limits` replaces all
of it by one that passed the checks, and only then can a withdrawal be requested.
-/

namespace IronVault

variable {Pubkey : Type} [DecidableEq Pubkey] [Solana Pubkey]

structure VaultAsset.Configured (asset : VaultAsset Pubkey) : Prop where
  maxPerTransaction_pos : 0 < asset.maxPerTransaction
  maxPerTransaction_le : asset.maxPerTransaction ≤ asset.windowLimit
  timelockThreshold_le : asset.timelockThreshold ≤ asset.maxPerTransaction
  windowSeconds_pos : 0 < asset.windowSeconds
  timelockSeconds_pos : 0 < asset.timelockSeconds
  requestExecutionWindowSeconds_pos : 0 < asset.requestExecutionWindowSeconds

def State.Unrequested (s : State Pubkey) (key : Pubkey) : Prop :=
  ∀ k request, s.withdrawalRequest k = some request → request.vaultAsset ≠ key

def ChargesWindow (ctx : ExecuteWithdrawal Pubkey) (now : Int64) (s s' : State Pubkey) : Prop :=
  ∃ request asset asset', s.withdrawalRequest ctx.withdrawalRequest = some request ∧
    s.vaultAsset ctx.vaultAsset = some asset ∧ s'.vaultAsset ctx.vaultAsset = some asset' ∧
    0 < request.amount ∧ asset'.windowSpent.toNat =
      (if asset.windowStartedAt.toInt + asset.windowSeconds.toInt ≤ now.toInt then 0
        else asset.windowSpent.toNat) + request.amount.toNat

/--
An amount goes through exactly one of the two threshold checks, that of `withdraw` or that of
`request_withdrawal`.
-/
structure OnePath (s : State Pubkey) (key : Pubkey) (asset : VaultAsset Pubkey) (amount : UInt64) :
    Prop where
  exactly_one : Xor (amount ≤ asset.timelockThreshold) (asset.timelockThreshold < amount)
  withdraw_ok {ctx : Withdraw Pubkey} {now : Int64} : ctx.vaultAsset = key →
    amount ≤ asset.timelockThreshold →
      process s now (.withdraw ctx amount) ≠ .error (.ironVault .timelockRequired)
  withdraw_error {ctx : Withdraw Pubkey} {now : Int64} : ctx.vaultAsset = key →
    asset.timelockThreshold < amount → (process s now (.withdraw ctx amount)).isOk = false
  request_ok {ctx : RequestWithdrawal Pubkey} {now : Int64} : ctx.vaultAsset = key →
    asset.timelockThreshold < amount →
      process s now (.requestWithdrawal ctx amount) ≠ .error (.ironVault .timelockNotRequired)
  request_error {ctx : RequestWithdrawal Pubkey} {now : Int64} : ctx.vaultAsset = key →
    amount ≤ asset.timelockThreshold → (process s now (.requestWithdrawal ctx amount)).isOk = false

structure PolicyWellFormed (s : State Pubkey) : Prop where
  asset {key : Pubkey} {asset : VaultAsset Pubkey} : s.vaultAsset key = some asset →
    asset.Unconfigured ∧ s.Unrequested key ∨ asset.Configured
  withdraw (ctx : Withdraw Pubkey) (amount : UInt64) (now : Int64) :
    process s now (.withdraw ctx amount) ≠ .error (.ironVault .invalidWithdrawalPolicy)
  request (ctx : RequestWithdrawal Pubkey) (amount : UInt64) (now : Int64) :
    process s now (.requestWithdrawal ctx amount) ≠ .error (.ironVault .invalidWithdrawalPolicy)
  execute (ctx : ExecuteWithdrawal Pubkey) (now : Int64) :
    process s now (.executeWithdrawal ctx) ≠ .error (.ironVault .invalidWithdrawalPolicy)
  charges {ctx : ExecuteWithdrawal Pubkey} {now : Int64} {s' : State Pubkey}
    {event : Option (IronVaultEvent Pubkey)} :
    process s now (.executeWithdrawal ctx) = .ok (s', event) → ChargesWindow ctx now s s'
  onePath {key : Pubkey} {asset : VaultAsset Pubkey} {amount : UInt64} :
    s.vaultAsset key = some asset → 1 ≤ amount → amount ≤ asset.maxPerTransaction →
      OnePath s key asset amount

section Invariant

variable {s s' : State Pubkey} {a : Action Pubkey} {key : Pubkey} {asset asset' : VaultAsset Pubkey}

omit [DecidableEq Pubkey] [Solana Pubkey] in
theorem VaultAsset.Unconfigured.not_configured (h : asset.Unconfigured) : ¬ asset.Configured := by
  intro hconfigured
  have hpos := hconfigured.windowSeconds_pos
  simp [h.windowSeconds] at hpos

omit [DecidableEq Pubkey] [Solana Pubkey] in
theorem VaultAsset.configured_withPolicy {policy : Policy} {window : Int64 × UInt64}
    (h : policy.Valid) : (asset.withPolicy policy window).Configured := by
  obtain ⟨hmax, -, hseconds, hle, hthreshold, htimelock, hexecution⟩ := h
  exact ⟨hmax, hle, hthreshold, hseconds, htimelock, hexecution⟩

omit [DecidableEq Pubkey] [Solana Pubkey] in
theorem VaultAsset.Unconfigured.not_threshold_lt (h : asset.Unconfigured) {amount : UInt64} :
    ¬ asset.timelockThreshold < amount := by
  rw [h.timelockThreshold, UInt64.lt_iff_toNat_lt]
  have := amount.toNat_lt
  simp only [u64Max, UInt64.reduceToNat]
  omega

theorem VaultAsset.Configured.evolves (h : asset.Configured) (hevolves : asset.Evolves s key a s') :
    ∃ asset', s'.vaultAsset key = some asset' ∧ asset'.Configured := by
  cases hevolves with
  | idle _ hpost => exact ⟨asset, hpost, h⟩
  | updated _ haccepted hpost => exact ⟨_, hpost, configured_withPolicy haccepted.valid⟩
  | charged _ _ hpost =>
    obtain ⟨hmax, hle, hthreshold, hseconds, htimelock, hexecution⟩ := h
    exact ⟨_, hpost, hmax, hle, hthreshold, hseconds, htimelock, hexecution⟩

theorem VaultAsset.Unconfigured.evolves (h : asset.Unconfigured)
    (hevolves : asset.Evolves s key a s') :
    ∃ asset', s'.vaultAsset key = some asset' ∧ (asset'.Unconfigured ∨ asset'.Configured) := by
  cases hevolves with
  | idle _ hpost => exact ⟨asset, hpost, .inl h⟩
  | updated _ haccepted hpost => exact ⟨_, hpost, .inr (configured_withPolicy haccepted.valid)⟩
  | charged _ hwindow hpost =>
    -- Without a window nothing is counted
    rcases nextWindowState_ok hwindow with ⟨-, rfl⟩ | ⟨hseconds, -⟩
    . exact ⟨_, hpost, .inl h⟩
    . simp [h.windowSeconds] at hseconds

theorem Reachable.unconfigured_or_configured (h : Reachable s)
    (hasset : s.vaultAsset key = some asset) : asset.Unconfigured ∨ asset.Configured := by
  induction h using Reachable.induction generalizing key asset with
  | empty => simp [State.empty] at hasset
  | step s a s' hreach hstep ih =>
    cases hold : s.vaultAsset key with
    | none => exact .inl (hstep.unconfigured_of_none hold hasset)
    | some old =>
      rcases ih hold with h | h
      . obtain ⟨asset', hpost, hasset'⟩ := h.evolves (hstep.asset_evolves hold)
        rw [hasset, Option.some.injEq] at hpost
        rw [hpost]
        exact hasset'
      . obtain ⟨asset', hpost, hasset'⟩ := h.evolves (hstep.asset_evolves hold)
        rw [hasset, Option.some.injEq] at hpost
        rw [hpost]
        exact .inr hasset'

theorem Reachable.configured_of_request (h : Reachable s) {k : Pubkey}
    {request : WithdrawalRequest Pubkey} (hrequest : s.withdrawalRequest k = some request) :
    ∃ asset, s.vaultAsset request.vaultAsset = some asset ∧ asset.Configured := by
  -- A request was only accepted under a policy, and the asset keeps having one.
  induction h using Reachable.induction generalizing request with
  | empty => simp [State.empty] at hrequest
  | step s a s' hreach hstep ih =>
    have hpre : ∃ asset, s.vaultAsset request.vaultAsset = some asset ∧ asset.Configured := by
      cases hold : s.withdrawalRequest k with
      | none =>
        obtain ⟨ctx, now, event, vault, asset, recipientToken, nextWithdrawalId, -, -, -, -, hkey, -, -,
          haccepted⟩ := hstep.withdrawalRequest_of_none hold hrequest
        have hasset := haccepted.asset_eq
        rw [hkey] at hasset
        refine ⟨asset, hasset, ?_⟩
        rcases hreach.unconfigured_or_configured hasset with h | h
        . exact absurd haccepted.threshold_lt h.not_threshold_lt
        . exact h
      | some old =>
        have hkey : request.vaultAsset = old.vaultAsset := by
          cases hstep.evolves hold with
          | same h =>
            rw [hrequest, Option.some.injEq] at h
            rw [h]
          | executed _ _ h =>
            rw [hrequest, Option.some.injEq] at h
            rw [h]
          | cancelled _ _ h =>
            rw [hrequest, Option.some.injEq] at h
            rw [h]
        rw [hkey]
        exact ih hold
    obtain ⟨asset, hasset, hconfigured⟩ := hpre
    exact hconfigured.evolves (hstep.asset_evolves hasset)

end Invariant

section Failure

variable {s s' : State Pubkey} {key : Pubkey} {asset : VaultAsset Pubkey} {e : IronVaultError}
  {amount : UInt64} {now : Int64}

omit [DecidableEq Pubkey] [Solana Pubkey] in
theorem process.emit_eq_error {result : Except Error (State Pubkey × IronVaultEvent Pubkey)}
    {e : Error} : process.emit result = .error e ↔ result = .error e := by
  cases result <;> simp [process.emit, Except.map]

omit [DecidableEq Pubkey] [Solana Pubkey] in
theorem nextWindowState_error (he : e.OfPolicy)
    (h : nextWindowState asset amount now = .error (.ironVault e)) : asset.windowSeconds < 0 := by
  unfold nextWindowState at h
  split at h
  . simp [Except.pure_eq_error_iff] at h
  . next hne =>
    cases he <;>
    simp only [Except.bind_eq_error_iff, require_eq_error, fetch_eq_error, Except.pure_eq_error_iff,
      reduceCtorEq, Error.ironVault.injEq, and_true, and_false, or_false, exists_false] at h
    rw [Int64.not_lt] at h
    exact Int64.lt_of_le_of_ne h hne

theorem Reachable.nextWindowState_ne_error (hs : Reachable s)
    (hasset : s.vaultAsset key = some asset) (he : e.OfPolicy) :
    nextWindowState asset amount now ≠ .error (.ironVault e) := by
  intro h
  have hlt := nextWindowState_error he h
  rcases (hs.vaultAsset hasset).windowSeconds_nonneg with hzero | hpos
  . simp [hzero] at hlt
  . exact Int64.lt_irrefl (Int64.lt_trans hlt hpos)

theorem Reachable.withdraw_error (hs : Reachable s) {ctx : Withdraw Pubkey} (he : e.OfPolicy)
    (h : process s now (.withdraw ctx amount) = .error (.ironVault e)) :
    e = .timelockRequired ∧
      ∃ asset, s.vaultAsset ctx.vaultAsset = some asset ∧ ¬ amount ≤ asset.timelockThreshold := by
  obtain ⟨asset, hasset, ⟨rfl, hthreshold⟩ | hwindow⟩ :=
    Withdraw.withdrawTokens_error he (process.emit_eq_error.mp h)
  . exact ⟨rfl, asset, hasset, hthreshold⟩
  . exact absurd hwindow (hs.nextWindowState_ne_error hasset he)

theorem Reachable.request_error (hs : Reachable s) {ctx : RequestWithdrawal Pubkey}
    (he : e.OfPolicy)
    (h : process s now (.requestWithdrawal ctx amount) = .error (.ironVault e)) :
    e = .timelockNotRequired ∧
      ∃ asset, s.vaultAsset ctx.vaultAsset = some asset ∧ ¬ asset.timelockThreshold < amount := by
  obtain ⟨asset, hasset, ⟨rfl, hthreshold⟩ | ⟨-, hthreshold, hseconds⟩⟩ :=
    RequestWithdrawal.request_error he (process.emit_eq_error.mp h)
  . exact ⟨rfl, asset, hasset, hthreshold⟩
  . -- The amount is above the threshold, so there is a policy, and it has positive durations
    rcases hs.unconfigured_or_configured hasset with hasset | hasset
    . exact absurd hthreshold hasset.not_threshold_lt
    . rcases hseconds with hle | hle
      . exact absurd hasset.timelockSeconds_pos (Int64.not_lt.mpr hle)
      . exact absurd hasset.requestExecutionWindowSeconds_pos (Int64.not_lt.mpr hle)

theorem Reachable.execute_ne_error (hs : Reachable s) {ctx : ExecuteWithdrawal Pubkey}
    (he : e.OfPolicy) : process s now (.executeWithdrawal ctx) ≠ .error (.ironVault e) := by
  intro h
  obtain ⟨asset, amount, hasset, hwindow⟩ :=
    ExecuteWithdrawal.execute_error he (process.emit_eq_error.mp h)
  exact hs.nextWindowState_ne_error hasset he hwindow

theorem Reachable.chargesWindow (hs : Reachable s) {ctx : ExecuteWithdrawal Pubkey}
    {event : Option (IronVaultEvent Pubkey)}
    (h : process s now (.executeWithdrawal ctx) = .ok (s', event)) : ChargesWindow ctx now s s' := by
  obtain ⟨_, -, vault, asset, request, next, haccepted⟩ := process_accepted h
  have hasset := haccepted.outflow.asset_eq
  have hpos := (hs.withdrawalRequest haccepted.request_eq).amount_pos
  refine ⟨request, asset, _, haccepted.request_eq, hasset, haccepted.outflow.asset_some, hpos, ?_⟩
  -- The request stands for a policy, so there is a window to charge
  obtain ⟨asset', hasset', hconfigured⟩ := hs.configured_of_request haccepted.request_eq
  rw [haccepted.request_asset, hasset, Option.some.injEq] at hasset'
  subst hasset'
  rcases nextWindowState_ok haccepted.outflow.window_ok with
    ⟨hzero, -⟩ | ⟨-, -, ⟨hover, rfl⟩ | ⟨hlive, -, hspent⟩⟩
  . have hseconds := hconfigured.windowSeconds_pos
    simp [hzero] at hseconds
  . rw [if_pos hover, Nat.zero_add]
  . rw [if_neg (Int.not_le.mpr hlive)]
    exact hspent

theorem Reachable.onePath (hs : Reachable s) (hasset : s.vaultAsset key = some asset) :
    OnePath s key asset amount where
  exactly_one := by
    rw [← UInt64.not_le]
    by_cases h : amount ≤ asset.timelockThreshold
    . exact .inl ⟨h, not_not.mpr h⟩
    . exact .inr ⟨h, h⟩
  withdraw_ok := by
    rintro ctx now rfl hle herror
    obtain ⟨-, asset', hasset', hnot⟩ := hs.withdraw_error .required herror
    rw [hasset, Option.some.injEq] at hasset'
    rw [hasset'] at hle
    exact hnot hle
  withdraw_error := by
    rintro ctx now rfl hlt
    cases hprocess : process s now (.withdraw ctx amount) with
    | error e => rfl
    | ok result =>
      obtain ⟨_, -, vault, asset', next, haccepted⟩ := process_accepted hprocess
      have hasset' := haccepted.outflow.asset_eq
      rw [hasset, Option.some.injEq] at hasset'
      rw [hasset'] at hlt
      exact absurd haccepted.le_threshold (UInt64.not_le.mpr hlt)
  request_ok := by
    rintro ctx now rfl hlt herror
    obtain ⟨-, asset', hasset', hnot⟩ := hs.request_error .notRequired herror
    rw [hasset, Option.some.injEq] at hasset'
    rw [hasset'] at hlt
    exact hnot hlt
  request_error := by
    rintro ctx now rfl hle
    cases hprocess : process s now (.requestWithdrawal ctx amount) with
    | error e => rfl
    | ok result =>
      obtain ⟨_, -, vault, asset', _, _, _, _, haccepted⟩ := process_accepted hprocess
      have hasset' := haccepted.asset_eq
      rw [hasset, Option.some.injEq] at hasset'
      rw [hasset'] at hle
      exact absurd haccepted.threshold_lt (UInt64.not_lt.mpr hle)

end Failure

theorem policy_wellFormed {s : State Pubkey} (hs : Reachable s) : PolicyWellFormed s where
  asset := by
    intro key asset hasset
    rcases hs.unconfigured_or_configured hasset with h | h
    . refine .inl ⟨h, ?_⟩
      rintro k request hrequest rfl
      obtain ⟨asset', hasset', hconfigured⟩ := hs.configured_of_request hrequest
      rw [hasset, Option.some.injEq] at hasset'
      rw [hasset'] at h
      exact h.not_configured hconfigured
    . exact .inr h
  withdraw := by
    intro ctx amount now herror
    simpa using (hs.withdraw_error .invalid herror).1
  request := by
    intro ctx amount now herror
    simpa using (hs.request_error .invalid herror).1
  execute _ _ := hs.execute_ne_error .invalid
  charges := hs.chargesWindow
  onePath hasset _ _ := hs.onePath hasset

open Scenario in
theorem policy_wellFormed_requested : PolicyWellFormed (start.final requested) :=
  policy_wellFormed ⟨_, history_requested⟩

end IronVault
