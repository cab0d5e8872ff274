import IronVault.Program.Impl.Accounts

/-!
This module contains the instructions on one asset of a vault: `register_asset`, `update_limits`,
`deposit` and `withdraw`, with the rolling-window accounting that every outflow goes through.
-/

namespace IronVault

variable {Pubkey : Type} [DecidableEq Pubkey] [Solana Pubkey]

structure RegisterAsset (Pubkey : Type) where
  authority : Pubkey
  protocolConfig : Pubkey
  vault : Pubkey
  mint : Pubkey
  vaultAsset : Pubkey
  vaultToken : Pubkey
  tokenProgram : Pubkey

def RegisterAsset.registerVaultAsset (ctx : RegisterAsset Pubkey) (s : State Pubkey) (now : Int64) :
    Except Error (State Pubkey × IronVaultEvent Pubkey) := do
  checkTokenProgram ctx.tokenProgram
  let config ← s.loadProtocolConfig ctx.protocolConfig
  let vault ← s.loadVault ctx.vault
  require (vault.authority = ctx.authority) IronVaultError.invalidVaultAuthority
  let _ ← s.loadMint ctx.mint ctx.tokenProgram
  let bump ← s.init ctx.vaultAsset (.vaultAsset ctx.vault ctx.mint)
  let _ ← s.init ctx.vaultToken (.vaultToken ctx.vault ctx.mint)
  requireProtocolActive config pauseVaultConfig
  let vaultToken := TokenAccount.initializeAccount ctx.tokenProgram ctx.mint ctx.vault
  let asset : VaultAsset Pubkey := {
    vault := ctx.vault
    mint := ctx.mint
    tokenProgram := ctx.tokenProgram
    maxPerTransaction := u64Max
    windowLimit := u64Max
    windowSeconds := 0
    windowStartedAt := now
    windowSpent := 0
    timelockThreshold := u64Max
    timelockSeconds := 0
    requestExecutionWindowSeconds := 0
    enabled := true
    bump
    reserved := .replicate 30 0
  }
  return (
    { s with
      vaultAsset := Function.update s.vaultAsset ctx.vaultAsset (some asset)
      token := Function.update s.token ctx.vaultToken (some vaultToken) },
    .vaultAssetRegistered {
      version := initialSchemaVersion
      vault := ctx.vault
      vaultAsset := ctx.vaultAsset
      vaultToken := ctx.vaultToken
      mint := ctx.mint
      tokenProgram := ctx.tokenProgram
    }
  )

structure UpdateLimits (Pubkey : Type) where
  caller : Pubkey
  protocolConfig : Pubkey
  vault : Pubkey
  mint : Pubkey
  vaultAsset : Pubkey
  remainingAccounts : List Pubkey

structure Policy where
  -- The arguments of `update_limits`.
  maxPerTransaction : UInt64
  windowLimit : UInt64
  windowSeconds : Int64
  timelockThreshold : UInt64
  timelockSeconds : Int64
  requestExecutionWindowSeconds : Int64
  deriving DecidableEq

def UpdateLimits.authorize (ctx : UpdateLimits Pubkey) (s : State Pubkey) (vault : Vault Pubkey) :
    Except Error Unit :=
  s.authorize (ctx.caller = vault.authority) ctx.remainingAccounts ctx.vault ctx.caller
    permissionManageLimits .unexpectedLimitAccounts .missingVaultPermission

def UpdateLimits.nextWindow (asset : VaultAsset Pubkey) (windowSeconds now : Int64) :
    Except Error (Int64 × UInt64) :=
  if asset.windowSeconds = 0 then
    return (now, 0)
  else if asset.windowSeconds ≠ windowSeconds then do
    let currentWindowEnds ← fetch (asset.windowStartedAt.checkedAdd asset.windowSeconds)
      (Error.ironVault .withdrawalPolicyOverflow)
    require (currentWindowEnds ≤ now) (Error.ironVault .liveWindowDurationChange)
    return (now, 0)
  else
    return (asset.windowStartedAt, asset.windowSpent)

def UpdateLimits.update (ctx : UpdateLimits Pubkey) (s : State Pubkey) (policy : Policy)
    (now : Int64) : Except Error (State Pubkey × IronVaultEvent Pubkey) := do
  let config ← s.loadProtocolConfig ctx.protocolConfig
  let vault ← s.loadVault ctx.vault
  let asset ← s.loadVaultAsset ctx.vaultAsset ctx.vault ctx.mint
  let _ ← s.loadMint ctx.mint asset.tokenProgram
  requireProtocolActive config pauseVaultConfig
  ctx.authorize s vault
  require (0 < policy.maxPerTransaction ∧ 0 < policy.windowLimit ∧ 0 < policy.windowSeconds ∧
    policy.maxPerTransaction ≤ policy.windowLimit ∧
    policy.timelockThreshold ≤ policy.maxPerTransaction ∧ 0 < policy.timelockSeconds ∧
    0 < policy.requestExecutionWindowSeconds) IronVaultError.invalidWithdrawalPolicy
  let window ← nextWindow asset policy.windowSeconds now
  let asset := { asset with
    windowStartedAt := window.1
    windowSpent := window.2
    maxPerTransaction := policy.maxPerTransaction
    windowLimit := policy.windowLimit
    windowSeconds := policy.windowSeconds
    timelockThreshold := policy.timelockThreshold
    timelockSeconds := policy.timelockSeconds
    requestExecutionWindowSeconds := policy.requestExecutionWindowSeconds
  }
  return (
    { s with vaultAsset := Function.update s.vaultAsset ctx.vaultAsset (some asset) },
    .vaultLimitsUpdated {
      version := initialSchemaVersion
      vault := ctx.vault
      vaultAsset := ctx.vaultAsset
      mint := asset.mint
      caller := ctx.caller
      maxPerTransaction := policy.maxPerTransaction
      windowLimit := policy.windowLimit
      windowSeconds := policy.windowSeconds
      timelockThreshold := policy.timelockThreshold
      timelockSeconds := policy.timelockSeconds
      requestExecutionWindowSeconds := policy.requestExecutionWindowSeconds
      windowStartedAt := asset.windowStartedAt
      windowSpent := asset.windowSpent
    }
  )

structure Deposit (Pubkey : Type) where
  depositor : Pubkey
  vault : Pubkey
  mint : Pubkey
  vaultAsset : Pubkey
  sourceToken : Pubkey
  vaultToken : Pubkey
  tokenProgram : Pubkey

def Deposit.depositTokens (ctx : Deposit Pubkey) (s : State Pubkey) (amount : UInt64) :
    Except Error (State Pubkey × IronVaultEvent Pubkey) := do
  checkTokenProgram ctx.tokenProgram
  let _ ← s.loadVault ctx.vault
  let mint ← s.loadMint ctx.mint ctx.tokenProgram
  let asset ← s.loadVaultAsset ctx.vaultAsset ctx.vault ctx.mint
  require (asset.tokenProgram = ctx.tokenProgram) AnchorError.constraintRaw
  let sourceToken ← s.loadOwnedToken ctx.sourceToken ctx.depositor asset.mint ctx.tokenProgram
    .invalidDepositSourceOwner .invalidDepositSourceMint
  let vaultToken ← s.loadCustody ctx.vaultToken (.vaultToken ctx.vault ctx.mint) ctx.vault
    asset.mint ctx.tokenProgram .invalidVaultCustodyBalance .invalidDepositSourceMint
  require (0 < amount) IronVaultError.invalidVaultAmount
  require asset.enabled IronVaultError.vaultAssetDisabled
  require (amount ≤ sourceToken.amount) IronVaultError.insufficientFunds
  let custodyAfter ← fetch (vaultToken.amount.checkedAdd amount)
    IronVaultError.invalidVaultCustodyBalance
  let s ← s.transferChecked {
    tokenProgram := ctx.tokenProgram
    source := ctx.sourceToken
    mint := ctx.mint
    destination := ctx.vaultToken
    authority := ctx.depositor
  } amount mint.decimals
  let sourceAfter ← fetch (sourceToken.amount.checkedSub amount) Error.overflow
  s.requireBalance ctx.sourceToken sourceAfter .invalidDepositSourceBalance
  s.requireBalance ctx.vaultToken custodyAfter .invalidVaultCustodyBalance
  return (s, .vaultDeposit {
    version := initialSchemaVersion
    vault := ctx.vault
    vaultAsset := ctx.vaultAsset
    vaultToken := ctx.vaultToken
    depositor := ctx.depositor
    sourceToken := ctx.sourceToken
    mint := ctx.mint
    amount
  })

structure Withdraw (Pubkey : Type) where
  caller : Pubkey
  protocolConfig : Pubkey
  vault : Pubkey
  mint : Pubkey
  vaultAsset : Pubkey
  vaultToken : Pubkey
  destinationToken : Pubkey
  tokenProgram : Pubkey
  remainingAccounts : List Pubkey

def nextWindowState (asset : VaultAsset Pubkey) (amount : UInt64) (now : Int64) :
    Except Error (Int64 × UInt64) :=
  if asset.windowSeconds = 0 then
    return (asset.windowStartedAt, asset.windowSpent)
  else do
    require (0 < asset.windowSeconds) (Error.ironVault .invalidWithdrawalPolicy)
    let windowEnds ← fetch (asset.windowStartedAt.checkedAdd asset.windowSeconds)
      (Error.ironVault .withdrawalPolicyOverflow)
    let window := if windowEnds ≤ now then (now, 0) else (asset.windowStartedAt, asset.windowSpent)
    let spentAfter ← fetch (window.2.checkedAdd amount) (Error.ironVault .withdrawalPolicyOverflow)
    require (spentAfter ≤ asset.windowLimit) (Error.ironVault .windowLimitExceeded)
    return (window.1, spentAfter)

def Withdraw.withdrawTokens (ctx : Withdraw Pubkey) (s : State Pubkey) (amount : UInt64)
    (now : Int64) : Except Error (State Pubkey × IronVaultEvent Pubkey) := do
  checkTokenProgram ctx.tokenProgram
  let config ← s.loadProtocolConfig ctx.protocolConfig
  let vault ← s.loadVault ctx.vault
  let mint ← s.loadMint ctx.mint ctx.tokenProgram
  let asset ← s.loadVaultAsset ctx.vaultAsset ctx.vault ctx.mint
  require (asset.tokenProgram = ctx.tokenProgram) AnchorError.constraintRaw
  let vaultToken ← s.loadCustody ctx.vaultToken (.vaultToken ctx.vault ctx.mint) ctx.vault
    asset.mint ctx.tokenProgram .invalidVaultCustodyBalance .invalidWithdrawalDestinationMint
  let destinationToken ← s.loadToken ctx.destinationToken asset.mint ctx.tokenProgram
    .invalidWithdrawalDestinationMint
  requireProtocolActive config pauseVaultOutflow
  s.authorize (ctx.caller = vault.authority) ctx.remainingAccounts ctx.vault ctx.caller
    permissionWithdraw .unexpectedWithdrawalAccounts .missingVaultPermission
  require (0 < amount) IronVaultError.invalidVaultAmount
  require (!vault.paused) IronVaultError.vaultPaused
  require asset.enabled IronVaultError.vaultAssetDisabled
  require (amount ≤ asset.maxPerTransaction) IronVaultError.perTransactionLimitExceeded
  require (amount ≤ asset.timelockThreshold) IronVaultError.timelockRequired
  require (amount ≤ vaultToken.amount) IronVaultError.insufficientVaultFunds
  let next ← nextWindowState asset amount now
  let destinationAfter ← fetch (destinationToken.amount.checkedAdd amount)
    IronVaultError.invalidWithdrawalDestinationBalance
  let s ← s.transferChecked {
    tokenProgram := ctx.tokenProgram
    source := ctx.vaultToken
    mint := ctx.mint
    destination := ctx.destinationToken
    authority := ctx.vault
  } amount mint.decimals
  let custodyAfter ← fetch (vaultToken.amount.checkedSub amount) Error.overflow
  s.requireBalance ctx.vaultToken custodyAfter .invalidVaultCustodyBalance
  s.requireBalance ctx.destinationToken destinationAfter .invalidWithdrawalDestinationBalance
  let asset :=
    if 0 < asset.windowSeconds then
      { asset with windowStartedAt := next.1, windowSpent := next.2 }
    else
      asset
  return (
    { s with vaultAsset := Function.update s.vaultAsset ctx.vaultAsset (some asset) },
    .vaultWithdrawal {
      version := initialSchemaVersion
      vault := ctx.vault
      vaultAsset := ctx.vaultAsset
      vaultToken := ctx.vaultToken
      caller := ctx.caller
      destinationToken := ctx.destinationToken
      mint := ctx.mint
      amount
    }
  )

end IronVault
