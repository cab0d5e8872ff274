import IronVault.Program.Impl.Accounts

/-!
This module contains `create_escrow`, `release_escrow` and `refund_escrow`.
-/

namespace IronVault

variable {Pubkey : Type} [DecidableEq Pubkey] [Solana Pubkey]

structure CreateEscrow (Pubkey : Type) where
  maker : Pubkey
  protocolConfig : Pubkey
  mint : Pubkey
  makerToken : Pubkey
  escrow : Pubkey
  escrowToken : Pubkey
  tokenProgram : Pubkey

def CreateEscrow.create (ctx : CreateEscrow Pubkey) (s : State Pubkey) (escrowId : UInt64)
    (recipient : Pubkey) (amount : UInt64) (expiresAt now : Int64) :
    Except Error (State Pubkey × IronVaultEvent Pubkey) := do
  checkTokenProgram ctx.tokenProgram
  let config ← s.loadProtocolConfig ctx.protocolConfig
  let mint ← s.loadMint ctx.mint ctx.tokenProgram
  let makerToken ← s.loadOwnedToken ctx.makerToken ctx.maker ctx.mint ctx.tokenProgram
    .invalidSourceOwner .invalidSourceMint
  let bump ← s.init ctx.escrow (.escrow ctx.maker escrowId)
  let _ ← s.init ctx.escrowToken (.escrowToken ctx.escrow)
  requireProtocolActive config pauseEscrowCreate
  require (0 < amount) IronVaultError.invalidAmount
  require (recipient ≠ Solana.defaultKey ∧ recipient ≠ ctx.maker) IronVaultError.invalidRecipient
  require (now < expiresAt) IronVaultError.invalidExpiry
  require (amount ≤ makerToken.amount) IronVaultError.insufficientFunds
  let escrowToken := TokenAccount.initializeAccount ctx.tokenProgram ctx.mint ctx.escrow
  require (escrowToken.amount = 0) IronVaultError.invalidCustodyBalance
  let escrow : Escrow Pubkey := {
    maker := ctx.maker
    recipient
    mint := ctx.mint
    tokenProgram := ctx.tokenProgram
    escrowId
    amount
    createdAt := now
    expiresAt
    status := .funded
    bump
    reserved := .replicate 30 0
  }
  let s : State Pubkey := { s with
    escrow := Function.update s.escrow ctx.escrow (some escrow)
    token := Function.update s.token ctx.escrowToken (some escrowToken) }
  let s ← s.transferChecked {
    tokenProgram := ctx.tokenProgram
    source := ctx.makerToken
    mint := ctx.mint
    destination := ctx.escrowToken
    authority := ctx.maker
  } amount mint.decimals
  let sourceAfter ← fetch (makerToken.amount.checkedSub amount) Error.overflow
  s.requireBalance ctx.makerToken sourceAfter .invalidSourceBalance
  s.requireBalance ctx.escrowToken amount .invalidCustodyBalance
  return (s, .escrowCreated {
    version := initialSchemaVersion
    escrow := ctx.escrow
    escrowToken := ctx.escrowToken
    maker := ctx.maker
    recipient
    mint := ctx.mint
    amount
    createdAt := now
    expiresAt
    escrowId
  })

structure ReleaseEscrow (Pubkey : Type) where
  maker : Pubkey
  protocolConfig : Pubkey
  escrow : Pubkey
  mint : Pubkey
  escrowToken : Pubkey
  recipientToken : Pubkey
  tokenProgram : Pubkey

def ReleaseEscrow.release (ctx : ReleaseEscrow Pubkey) (s : State Pubkey) (now : Int64) :
    Except Error (State Pubkey × IronVaultEvent Pubkey) := do
  checkTokenProgram ctx.tokenProgram
  let config ← s.loadProtocolConfig ctx.protocolConfig
  let escrow ← s.loadEscrow ctx.escrow
  require (escrow.maker = ctx.maker) AnchorError.constraintHasOne
  require (escrow.mint = ctx.mint) AnchorError.constraintHasOne
  require (escrow.tokenProgram = ctx.tokenProgram) AnchorError.constraintRaw
  let mint ← s.loadMint ctx.mint ctx.tokenProgram
  let escrowToken ← s.loadCustody ctx.escrowToken (.escrowToken ctx.escrow) ctx.escrow escrow.mint
    ctx.tokenProgram .invalidCustodyBalance .invalidSourceMint
  let recipientToken ← s.loadOwnedToken ctx.recipientToken escrow.recipient escrow.mint
    ctx.tokenProgram .invalidRecipientOwner .invalidRecipientMint
  requireProtocolActive config pauseEscrowRelease
  require (escrow.status = .funded) IronVaultError.escrowNotFunded
  require (now < escrow.expiresAt) IronVaultError.escrowExpired
  require (escrow.amount ≤ escrowToken.amount) IronVaultError.insufficientFunds
  let s ← s.transferChecked {
    tokenProgram := ctx.tokenProgram
    source := ctx.escrowToken
    mint := ctx.mint
    destination := ctx.recipientToken
    authority := ctx.escrow
  } escrow.amount mint.decimals
  let custodyAfter ← fetch (escrowToken.amount.checkedSub escrow.amount) Error.overflow
  s.requireBalance ctx.escrowToken custodyAfter .invalidCustodyBalance
  let recipientAfter ← fetch (recipientToken.amount.checkedAdd escrow.amount)
    IronVaultError.invalidRecipientBalance
  s.requireBalance ctx.recipientToken recipientAfter .invalidRecipientBalance
  return (
    { s with
      escrow := Function.update s.escrow ctx.escrow (some { escrow with status := .released }) },
    .escrowReleased {
      version := initialSchemaVersion
      escrow := ctx.escrow
      escrowToken := ctx.escrowToken
      maker := escrow.maker
      recipient := escrow.recipient
      recipientToken := ctx.recipientToken
      mint := escrow.mint
      amount := escrow.amount
    }
  )

structure RefundEscrow (Pubkey : Type) where
  caller : Pubkey
  escrow : Pubkey
  mint : Pubkey
  escrowToken : Pubkey
  makerDestination : Pubkey
  tokenProgram : Pubkey

def RefundEscrow.refund (ctx : RefundEscrow Pubkey) (s : State Pubkey) (now : Int64) :
    Except Error (State Pubkey × IronVaultEvent Pubkey) := do
  checkTokenProgram ctx.tokenProgram
  let escrow ← s.loadEscrow ctx.escrow
  require (escrow.mint = ctx.mint) AnchorError.constraintHasOne
  require (escrow.tokenProgram = ctx.tokenProgram) AnchorError.constraintRaw
  let mint ← s.loadMint ctx.mint ctx.tokenProgram
  let escrowToken ← s.loadCustody ctx.escrowToken (.escrowToken ctx.escrow) ctx.escrow escrow.mint
    ctx.tokenProgram .invalidCustodyBalance .invalidSourceMint
  let makerDestination ← s.loadOwnedToken ctx.makerDestination escrow.maker escrow.mint
    ctx.tokenProgram .invalidMakerDestinationOwner .invalidMakerDestinationMint
  require (escrow.status = .funded) IronVaultError.escrowNotFunded
  require (escrow.expiresAt ≤ now) IronVaultError.escrowNotExpired
  require (escrow.amount ≤ escrowToken.amount) IronVaultError.insufficientFunds
  let s ← s.transferChecked {
    tokenProgram := ctx.tokenProgram
    source := ctx.escrowToken
    mint := ctx.mint
    destination := ctx.makerDestination
    authority := ctx.escrow
  } escrow.amount mint.decimals
  let custodyAfter ← fetch (escrowToken.amount.checkedSub escrow.amount) Error.overflow
  s.requireBalance ctx.escrowToken custodyAfter .invalidCustodyBalance
  let destinationAfter ← fetch (makerDestination.amount.checkedAdd escrow.amount)
    IronVaultError.invalidMakerDestinationBalance
  s.requireBalance ctx.makerDestination destinationAfter .invalidMakerDestinationBalance
  return (
    { s with
      escrow := Function.update s.escrow ctx.escrow (some { escrow with status := .refunded }) },
    .escrowRefunded {
      version := initialSchemaVersion
      escrow := ctx.escrow
      escrowToken := ctx.escrowToken
      caller := ctx.caller
      maker := escrow.maker
      makerDestination := ctx.makerDestination
      mint := escrow.mint
      amount := escrow.amount
    }
  )

end IronVault
