import IronVault.Program.Impl.Withdrawal
import IronVault.Program.Lemmas.Accounts

/-!
This module contains where the errors about the withdrawal policy come from. No check that the
handlers share fails with one of them, so a handler that does has come to a check of its own.
-/

namespace IronVault

variable {Pubkey : Type} [DecidableEq Pubkey] [Solana Pubkey]

inductive IronVaultError.OfPolicy : IronVaultError → Prop where
  | invalid : OfPolicy .invalidWithdrawalPolicy
  | required : OfPolicy .timelockRequired
  | notRequired : OfPolicy .timelockNotRequired

section Shared

variable {s : State Pubkey} {e : IronVaultError} {key vault mint tokenProgram owner caller : Pubkey}

theorem checkSeeds_ne_error {seeds : Seeds Pubkey} {bump : UInt8} :
    checkSeeds key seeds bump ≠ .error (.ironVault e) := by
  simp [checkSeeds, require_eq_error]

theorem checkCanonical_ne_error {seeds : Seeds Pubkey} :
    checkCanonical key seeds ≠ .error (.ironVault e) := by
  simp [checkCanonical, require_eq_error]

theorem checkTokenProgram_ne_error : checkTokenProgram key ≠ .error (.ironVault e) := by
  simp [checkTokenProgram, require_eq_error]

omit [DecidableEq Pubkey] [Solana Pubkey] in
theorem requireProtocolActive_ne_error {config : ProtocolConfig Pubkey} {flag : UInt32}
    (he : e.OfPolicy) : requireProtocolActive config flag ≠ .error (.ironVault e) := by
  cases he <;> simp [requireProtocolActive, require_eq_error]

namespace State

theorem init_ne_error {seeds : Seeds Pubkey} : s.init key seeds ≠ .error (.ironVault e) := by
  simp only [init, ne_eq, Except.bind_eq_error_iff, require_eq_error, checkCanonical_ne_error,
    Except.pure_eq_error_iff, reduceCtorEq]
  simp

theorem loadProtocolConfig_ne_error : s.loadProtocolConfig key ≠ .error (.ironVault e) := by
  simp only [loadProtocolConfig, ne_eq, Except.bind_eq_error_iff, fetch_eq_error,
    checkSeeds_ne_error, Except.pure_eq_error_iff, reduceCtorEq]
  simp

theorem loadVault_ne_error : s.loadVault key ≠ .error (.ironVault e) := by
  simp only [loadVault, ne_eq, Except.bind_eq_error_iff, fetch_eq_error, checkSeeds_ne_error,
    Except.pure_eq_error_iff, reduceCtorEq]
  simp

theorem loadVaultAsset_ne_error : s.loadVaultAsset key vault mint ≠ .error (.ironVault e) := by
  simp only [loadVaultAsset, ne_eq, Except.bind_eq_error_iff, fetch_eq_error, require_eq_error,
    checkSeeds_ne_error, Except.pure_eq_error_iff, reduceCtorEq]
  simp

theorem loadWithdrawalRequest_ne_error :
    s.loadWithdrawalRequest key vault ≠ .error (.ironVault e) := by
  simp only [loadWithdrawalRequest, ne_eq, Except.bind_eq_error_iff, fetch_eq_error,
    require_eq_error, checkSeeds_ne_error, Except.pure_eq_error_iff, reduceCtorEq]
  simp

theorem loadMint_ne_error (he : e.OfPolicy) :
    s.loadMint key tokenProgram ≠ .error (.ironVault e) := by
  cases he <;>
  . simp only [loadMint, ne_eq, Except.bind_eq_error_iff, fetch_eq_error, require_eq_error,
      Except.pure_eq_error_iff, reduceCtorEq, Error.ironVault.injEq]
    simp

theorem loadToken_ne_error {wrongMint : IronVaultError} (he : e.OfPolicy) (hmint : wrongMint ≠ e) :
    s.loadToken key mint tokenProgram wrongMint ≠ .error (.ironVault e) := by
  cases he <;>
  . simp only [loadToken, ne_eq, Except.bind_eq_error_iff, fetch_eq_error, require_eq_error,
      Except.pure_eq_error_iff, reduceCtorEq, Error.ironVault.injEq, hmint]
    simp

theorem loadOwnedToken_ne_error {wrongOwner wrongMint : IronVaultError} (he : e.OfPolicy)
    (howner : wrongOwner ≠ e) (hmint : wrongMint ≠ e) :
    s.loadOwnedToken key owner mint tokenProgram wrongOwner wrongMint ≠ .error (.ironVault e) := by
  simp only [loadOwnedToken, ne_eq, Except.bind_eq_error_iff, require_eq_error,
    Except.pure_eq_error_iff, loadToken_ne_error he hmint, Error.ironVault.injEq, howner]
  simp

theorem loadCustody_ne_error {seeds : Seeds Pubkey} {wrongOwner wrongMint : IronVaultError}
    (he : e.OfPolicy) (howner : wrongOwner ≠ e) (hmint : wrongMint ≠ e) :
    s.loadCustody key seeds owner mint tokenProgram wrongOwner wrongMint
      ≠ .error (.ironVault e) := by
  simp only [loadCustody, ne_eq, Except.bind_eq_error_iff, checkCanonical_ne_error,
    loadOwnedToken_ne_error he howner hmint]
  simp

theorem transferChecked_ne_error {x : TransferChecked Pubkey} {amount : UInt64} {decimals : UInt8} :
    s.transferChecked x amount decimals ≠ .error (.ironVault e) := by
  simp only [transferChecked, ne_eq, Except.bind_eq_error_iff, fetch_eq_error,
    Except.pure_eq_error_iff, reduceCtorEq]
  simp

omit [DecidableEq Pubkey] [Solana Pubkey] in
theorem requireBalance_ne_error {amount : UInt64} {wrong : IronVaultError} (hwrong : wrong ≠ e) :
    s.requireBalance key amount wrong ≠ .error (.ironVault e) := by
  simp only [requireBalance, ne_eq, Except.bind_eq_error_iff, fetch_eq_error, require_eq_error,
    reduceCtorEq, Error.ironVault.injEq, hwrong]
  simp

theorem validateRolePermission_ne_error {permission : UInt64} (he : e.OfPolicy) :
    s.validateRolePermission key vault caller permission ≠ .error (.ironVault e) := by
  cases he <;>
  . simp only [validateRolePermission, ne_eq, Except.bind_eq_error_iff, fetch_eq_error,
      require_eq_error, reduceCtorEq, Error.ironVault.injEq]
    simp

theorem authorize_ne_error {intrinsic : Bool} {remainingAccounts : List Pubkey} {permission : UInt64}
    {unexpected missing : IronVaultError} (he : e.OfPolicy) (hunexpected : unexpected ≠ e)
    (hmissing : missing ≠ e) :
    s.authorize intrinsic remainingAccounts vault caller permission unexpected missing
      ≠ .error (.ironVault e) := by
  unfold authorize
  split
  . simp [require_eq_error, hunexpected]
  . split
    . simp [hmissing]
    . exact validateRolePermission_ne_error he
    . simp [hunexpected]

end State
end Shared

section Handler

variable {s : State Pubkey} {e : IronVaultError} {amount : UInt64} {now : Int64}

theorem Withdraw.withdrawTokens_error {ctx : Withdraw Pubkey} (he : e.OfPolicy)
    (h : ctx.withdrawTokens s amount now = .error (.ironVault e)) :
    ∃ asset, s.vaultAsset ctx.vaultAsset = some asset ∧
      (e = .timelockRequired ∧ ¬ amount ≤ asset.timelockThreshold ∨
        nextWindowState asset amount now = .error (.ironVault e)) := by
  have hpolicy := he
  cases he <;>
  . simp only [withdrawTokens, Except.bind_eq_error_iff, checkTokenProgram_ne_error,
      State.loadProtocolConfig_ne_error, State.loadVault_ne_error, State.loadMint_ne_error hpolicy,
      State.loadVaultAsset_ne_error, State.loadCustody_ne_error hpolicy,
      State.loadToken_ne_error hpolicy, requireProtocolActive_ne_error hpolicy,
      State.authorize_ne_error hpolicy, require_eq_error, fetch_eq_error,
      State.transferChecked_ne_error, State.requireBalance_ne_error, Except.pure_eq_error_iff,
      State.loadVaultAsset_eq_ok, reduceCtorEq, Error.ironVault.injEq, ne_eq, not_false_eq_true,
      and_false, and_true, false_or, or_false, exists_false] at h
    grind

theorem RequestWithdrawal.request_error {ctx : RequestWithdrawal Pubkey} (he : e.OfPolicy)
    (h : ctx.request s amount now = .error (.ironVault e)) :
    ∃ asset, s.vaultAsset ctx.vaultAsset = some asset ∧
      (e = .timelockNotRequired ∧ ¬ asset.timelockThreshold < amount ∨
        e = .invalidWithdrawalPolicy ∧ asset.timelockThreshold < amount ∧
          (asset.timelockSeconds ≤ 0 ∨ asset.requestExecutionWindowSeconds ≤ 0)) := by
  have hpolicy := he
  cases he <;> simp only [request, Except.bind_eq_error_iff, State.init_ne_error,
    State.loadProtocolConfig_ne_error, State.loadVault_ne_error, State.loadMint_ne_error hpolicy,
    State.loadVaultAsset_ne_error, State.loadToken_ne_error hpolicy,
    requireProtocolActive_ne_error hpolicy, authorize, State.authorize_ne_error hpolicy,
    require_eq_error, fetch_eq_error, Except.pure_eq_error_iff, State.loadVaultAsset_eq_ok,
    fetch_eq_ok, require_eq_ok, Int64.checkedAdd_eq_some, reduceCtorEq, Error.ironVault.injEq,
    ne_eq, not_false_eq_true, and_false, and_true, false_or, or_false, exists_false,
    exists_const] at h
  case invalid =>
    obtain ⟨_, -, _, -, asset, ⟨hasset, -⟩, _, -, _, -, _, -, _, -, _, -, -, -, -, hthreshold, -,
      executeAfter, hafter, expiresAt, hexpires, hwrong⟩ := h
    refine ⟨asset, hasset, .inr ⟨rfl, hthreshold, ?_⟩⟩
    simp only [Int64.lt_iff_toInt_lt, Int64.le_iff_toInt_le, Int64.toInt_zero] at hwrong ⊢
    omega
  case notRequired =>
    obtain ⟨_, -, _, -, asset, ⟨hasset, -⟩, _, -, _, -, _, -, _, -, _, -, -, -, -, hthreshold⟩ := h
    exact ⟨asset, hasset, .inl ⟨rfl, hthreshold⟩⟩

theorem ExecuteWithdrawal.execute_error {ctx : ExecuteWithdrawal Pubkey} (he : e.OfPolicy)
    (h : ctx.execute s now = .error (.ironVault e)) :
    ∃ asset amount, s.vaultAsset ctx.vaultAsset = some asset ∧
      nextWindowState asset amount now = .error (.ironVault e) := by
  have hpolicy := he
  cases he <;>
  . simp only [execute, Except.bind_eq_error_iff, checkTokenProgram_ne_error,
      State.loadProtocolConfig_ne_error, State.loadVault_ne_error, State.loadMint_ne_error hpolicy,
      State.loadVaultAsset_ne_error, State.loadWithdrawalRequest_ne_error,
      State.loadCustody_ne_error hpolicy, State.loadOwnedToken_ne_error hpolicy,
      requireProtocolActive_ne_error hpolicy, require_eq_error, fetch_eq_error,
      State.transferChecked_ne_error, State.requireBalance_ne_error, Except.pure_eq_error_iff,
      State.loadVaultAsset_eq_ok, reduceCtorEq, Error.ironVault.injEq, ne_eq, not_false_eq_true,
      and_false, false_or, or_false, exists_false] at h
    grind

end Handler

end IronVault
