import IronVault.Program.Impl.Asset

/-!
This module contains the timelocked path out of a vault: `request_withdrawal`, `execute_withdrawal`
and `cancel_withdrawal`.
-/

namespace IronVault

variable {Pubkey : Type} [DecidableEq Pubkey] [Solana Pubkey]

structure RequestWithdrawal (Pubkey : Type) where
  proposer : Pubkey
  protocolConfig : Pubkey
  vault : Pubkey
  mint : Pubkey
  vaultAsset : Pubkey
  recipientToken : Pubkey
  withdrawalRequest : Pubkey
  remainingAccounts : List Pubkey

def RequestWithdrawal.authorize (ctx : RequestWithdrawal Pubkey) (s : State Pubkey)
    (vault : Vault Pubkey) : Except Error Unit :=
  s.authorize (ctx.proposer = vault.authority) ctx.remainingAccounts ctx.vault ctx.proposer
    permissionRequestWithdrawal .unexpectedRequestAccounts .missingVaultPermission

def RequestWithdrawal.request (ctx : RequestWithdrawal Pubkey) (s : State Pubkey) (amount : UInt64)
    (now : Int64) : Except Error (State Pubkey × IronVaultEvent Pubkey) := do
  let config ← s.loadProtocolConfig ctx.protocolConfig
  let vault ← s.loadVault ctx.vault
  let asset ← s.loadVaultAsset ctx.vaultAsset ctx.vault ctx.mint
  let _ ← s.loadMint ctx.mint asset.tokenProgram
  let recipientToken ← s.loadToken ctx.recipientToken ctx.mint asset.tokenProgram
    .invalidWithdrawalMint
  let bump ← s.init ctx.withdrawalRequest (.withdrawal ctx.vault vault.nextWithdrawalId)
  requireProtocolActive config pauseVaultOutflow
  ctx.authorize s vault
  require (0 < amount) IronVaultError.invalidVaultAmount
  require (!vault.paused) IronVaultError.vaultPaused
  require asset.enabled IronVaultError.vaultAssetDisabled
  require (asset.timelockThreshold < amount) IronVaultError.timelockNotRequired
  require (amount ≤ asset.maxPerTransaction) IronVaultError.perTransactionLimitExceeded
  let executeAfter ← fetch (now.checkedAdd asset.timelockSeconds)
    IronVaultError.withdrawalTimingOverflow
  let expiresAt ← fetch (executeAfter.checkedAdd asset.requestExecutionWindowSeconds)
    IronVaultError.withdrawalTimingOverflow
  require (now < executeAfter) IronVaultError.invalidWithdrawalPolicy
  require (executeAfter < expiresAt) IronVaultError.invalidWithdrawalPolicy
  let nextWithdrawalId ← fetch (vault.nextWithdrawalId.checkedAdd 1)
    IronVaultError.withdrawalPolicyOverflow
  let request : WithdrawalRequest Pubkey := {
    vault := ctx.vault
    vaultAsset := ctx.vaultAsset
    mint := ctx.mint
    tokenProgram := asset.tokenProgram
    proposer := ctx.proposer
    recipientOwner := recipientToken.owner
    recipientTokenAccount := ctx.recipientToken
    withdrawalId := vault.nextWithdrawalId
    amount
    createdAt := now
    executeAfter
    expiresAt
    status := .pending
    bump
    reserved := .replicate 30 0
  }
  return (
    { s with
      vault := Function.update s.vault ctx.vault (some { vault with nextWithdrawalId })
      withdrawalRequest :=
        Function.update s.withdrawalRequest ctx.withdrawalRequest (some request) },
    .withdrawalRequested {
      version := initialSchemaVersion
      vault := request.vault
      vaultAsset := request.vaultAsset
      withdrawalRequest := ctx.withdrawalRequest
      proposer := request.proposer
      recipientOwner := request.recipientOwner
      recipientTokenAccount := request.recipientTokenAccount
      mint := request.mint
      withdrawalId := vault.nextWithdrawalId
      amount
      createdAt := now
      executeAfter
      expiresAt
    }
  )

structure ExecuteWithdrawal (Pubkey : Type) where
  caller : Pubkey
  protocolConfig : Pubkey
  vault : Pubkey
  mint : Pubkey
  vaultAsset : Pubkey
  withdrawalRequest : Pubkey
  vaultToken : Pubkey
  recipientToken : Pubkey
  tokenProgram : Pubkey

def ExecuteWithdrawal.execute (ctx : ExecuteWithdrawal Pubkey) (s : State Pubkey) (now : Int64) :
    Except Error (State Pubkey × IronVaultEvent Pubkey) := do
  checkTokenProgram ctx.tokenProgram
  let config ← s.loadProtocolConfig ctx.protocolConfig
  let vault ← s.loadVault ctx.vault
  let mint ← s.loadMint ctx.mint ctx.tokenProgram
  let asset ← s.loadVaultAsset ctx.vaultAsset ctx.vault ctx.mint
  require (asset.tokenProgram = ctx.tokenProgram) AnchorError.constraintRaw
  let request ← s.loadWithdrawalRequest ctx.withdrawalRequest ctx.vault
  require (request.vaultAsset = ctx.vaultAsset) AnchorError.constraintHasOne
  require (request.mint = ctx.mint) AnchorError.constraintHasOne
  require (request.tokenProgram = ctx.tokenProgram) AnchorError.constraintRaw
  let vaultToken ← s.loadCustody ctx.vaultToken (.vaultToken ctx.vault ctx.mint) ctx.vault
    ctx.mint ctx.tokenProgram .invalidVaultCustodyBalance .invalidWithdrawalMint
  require (ctx.recipientToken = request.recipientTokenAccount)
    IronVaultError.invalidWithdrawalRecipient
  let recipientToken ← s.loadOwnedToken ctx.recipientToken request.recipientOwner request.mint
    ctx.tokenProgram .invalidWithdrawalRecipient .invalidWithdrawalMint
  requireProtocolActive config pauseVaultOutflow
  require (request.status = .pending) IronVaultError.withdrawalNotPending
  require (request.executeAfter ≤ now) IronVaultError.withdrawalTimelockActive
  require (now ≤ request.expiresAt) IronVaultError.withdrawalRequestExpired
  require (!vault.paused) IronVaultError.vaultPaused
  require asset.enabled IronVaultError.vaultAssetDisabled
  require (request.amount ≤ asset.maxPerTransaction) IronVaultError.perTransactionLimitExceeded
  require (request.amount ≤ vaultToken.amount) IronVaultError.insufficientVaultFunds
  let next ← nextWindowState asset request.amount now
  let destinationAfter ← fetch (recipientToken.amount.checkedAdd request.amount)
    IronVaultError.invalidWithdrawalDestinationBalance
  let s ← s.transferChecked {
    tokenProgram := ctx.tokenProgram
    source := ctx.vaultToken
    mint := ctx.mint
    destination := ctx.recipientToken
    authority := ctx.vault
  } request.amount mint.decimals
  let custodyAfter ← fetch (vaultToken.amount.checkedSub request.amount) Error.overflow
  s.requireBalance ctx.vaultToken custodyAfter .invalidVaultCustodyBalance
  s.requireBalance ctx.recipientToken destinationAfter .invalidWithdrawalDestinationBalance
  return (
    { s with
      vaultAsset := Function.update s.vaultAsset ctx.vaultAsset
        (some { asset with windowStartedAt := next.1, windowSpent := next.2 })
      withdrawalRequest := Function.update s.withdrawalRequest ctx.withdrawalRequest
        (some { request with status := .executed }) },
    .withdrawalExecuted {
      version := initialSchemaVersion
      vault := ctx.vault
      vaultAsset := ctx.vaultAsset
      withdrawalRequest := ctx.withdrawalRequest
      caller := ctx.caller
      recipientTokenAccount := ctx.recipientToken
      mint := ctx.mint
      withdrawalId := request.withdrawalId
      amount := request.amount
    }
  )

structure CancelWithdrawal (Pubkey : Type) where
  caller : Pubkey
  vault : Pubkey
  withdrawalRequest : Pubkey
  remainingAccounts : List Pubkey

def CancelWithdrawal.authorize (ctx : CancelWithdrawal Pubkey) (s : State Pubkey)
    (vault : Vault Pubkey) (request : WithdrawalRequest Pubkey) : Except Error Unit :=
  s.authorize
    (ctx.caller = vault.authority ∨ ctx.caller = vault.guardian ∨ ctx.caller = request.proposer)
    ctx.remainingAccounts ctx.vault ctx.caller permissionCancelWithdrawal
    .unexpectedCancellationAccounts .unauthorizedWithdrawalCancellation

def CancelWithdrawal.cancel (ctx : CancelWithdrawal Pubkey) (s : State Pubkey) :
    Except Error (State Pubkey × IronVaultEvent Pubkey) := do
  let vault ← s.loadVault ctx.vault
  let request ← s.loadWithdrawalRequest ctx.withdrawalRequest ctx.vault
  require (request.status = .pending) IronVaultError.withdrawalNotPending
  ctx.authorize s vault request
  return (
    { s with
      withdrawalRequest := Function.update s.withdrawalRequest ctx.withdrawalRequest
        (some { request with status := .cancelled }) },
    .withdrawalCancelled {
      version := initialSchemaVersion
      vault := ctx.vault
      withdrawalRequest := ctx.withdrawalRequest
      caller := ctx.caller
      proposer := request.proposer
      withdrawalId := request.withdrawalId
    }
  )

end IronVault
