import IronVault.Observer.Basic

/-!
This module contains the database of the observer. A call that fails leaves the database as it was,
because the database transaction is rolled back.
-/

namespace IronVault

def IronVaultEvent.version {Pubkey : Type} : IronVaultEvent Pubkey → UInt16
  | .protocolInitialized event => event.version
  | .protocolPauseUpdated event => event.version
  | .escrowCreated event => event.version
  | .escrowReleased event => event.version
  | .escrowRefunded event => event.version
  | .vaultCreated event => event.version
  | .vaultAuthorityUpdated event => event.version
  | .vaultPauseUpdated event => event.version
  | .vaultAssetRegistered event => event.version
  | .vaultDeposit event => event.version
  | .vaultWithdrawal event => event.version
  | .roleGranted event => event.version
  | .roleRevoked event => event.version
  | .vaultLimitsUpdated event => event.version
  | .withdrawalRequested event => event.version
  | .withdrawalExecuted event => event.version
  | .withdrawalCancelled event => event.version

namespace Observer

variable {Pubkey : Type} [DecidableEq Pubkey]

inductive PersistError where
  | slotExceedsBigint
  | tryFromInt
  | checkViolation

def insertOrIgnore {κ ρ : Type} [DecidableEq κ] (table : κ → Option ρ) (key : κ) (row : ρ) :
    κ → Option ρ :=
  -- `INSERT … ON CONFLICT DO NOTHING`.
  match table key with
  | none => Function.update table key (some row)
  | some _ => table

def updateIfNewer {κ Columns : Type} [DecidableEq κ] (table : κ → Option (Row Columns)) (key : κ)
    (f : Columns → Columns) (signature : String) (position : Position) : κ → Option (Row Columns) :=
  -- `UPDATE … WHERE key = … AND (last_slot, last_instruction_index, last_event_index) < …`.
  match table key with
  | none => table
  | some row =>
    if row.last < position then
      Function.update table key (some ⟨f row.columns, position, signature⟩)
    else
      table

namespace Database

def checkpointSignature (db : Database Pubkey) : Option String :=
  db.syncCheckpoint.map (·.transactionSignature)

def updateEscrowStatus (db : Database Pubkey) (escrow : Pubkey) (status : EscrowStatus)
    (signature : String) (position : Position) : Database Pubkey :=
  { db with
    escrows := updateIfNewer db.escrows escrow ({ · with status }) signature position }

def updateWithdrawalStatus (db : Database Pubkey) (request : Pubkey) (status : WithdrawalStatus)
    (signature : String) (position : Position) : Database Pubkey :=
  { db with
    withdrawalRequests :=
      updateIfNewer db.withdrawalRequests request ({ · with status }) signature position }

def applyProjection (db : Database Pubkey) (observed : ObservedEvent Pubkey) (position : Position) :
    Except PersistError (Database Pubkey) :=
  let signature := observed.id.transactionSignature
  match observed.event with
  | .escrowCreated event => do
    -- the CHECK constraints come before the conflict with a row that is already there
    require (0 < event.amount) .checkViolation
    return { db with
      escrows := insertOrIgnore db.escrows event.escrow {
        columns := {
          escrowToken := event.escrowToken
          maker := event.maker
          recipient := event.recipient
          mint := event.mint
          amount := event.amount
          escrowId := event.escrowId
          createdAt := event.createdAt
          expiresAt := event.expiresAt
          status := .funded
        }
        last := position
        lastSignature := signature
      } }
  | .escrowReleased event => return db.updateEscrowStatus event.escrow .released signature position
  | .escrowRefunded event => return db.updateEscrowStatus event.escrow .refunded signature position
  | .vaultCreated event =>
    return { db with
      vaults := insertOrIgnore db.vaults event.vault {
        columns := {
          namespaceAuthority := event.namespaceAuthority
          authority := event.authority
          guardian := event.guardian
          vaultId := event.vaultId
          paused := false
        }
        last := position
        lastSignature := signature
      } }
  | .vaultAuthorityUpdated event =>
    return { db with
      vaults := updateIfNewer db.vaults event.vault ({ · with authority := event.newAuthority })
        signature position }
  | .vaultPauseUpdated event =>
    return { db with
      vaults := updateIfNewer db.vaults event.vault ({ · with paused := event.paused })
        signature position }
  | .withdrawalRequested event => do
    require (0 < event.amount) .checkViolation
    return { db with
      withdrawalRequests := insertOrIgnore db.withdrawalRequests event.withdrawalRequest {
        columns := {
          vault := event.vault
          vaultAsset := event.vaultAsset
          proposer := event.proposer
          recipientOwner := event.recipientOwner
          recipientTokenAccount := event.recipientTokenAccount
          mint := event.mint
          withdrawalId := event.withdrawalId
          amount := event.amount
          createdAt := event.createdAt
          executeAfter := event.executeAfter
          expiresAt := event.expiresAt
          status := .pending
        }
        last := position
        lastSignature := signature
      } }
  | .withdrawalExecuted event =>
    return db.updateWithdrawalStatus event.withdrawalRequest .executed signature position
  | .withdrawalCancelled event =>
    return db.updateWithdrawalStatus event.withdrawalRequest .cancelled signature position
  | _ => return db

def updateCheckpoint (db : Database Pubkey) (observed : ObservedEvent Pubkey) (position : Position) :
    Database Pubkey :=
  let next : Checkpoint := ⟨position, observed.id.transactionSignature⟩
  match db.syncCheckpoint with
  | none => { db with syncCheckpoint := some next }
  | some current =>
    if current.position < position then { db with syncCheckpoint := some next } else db

def persist (db : Database Pubkey) (observed : ObservedEvent Pubkey) :
    Except PersistError (Database Pubkey × Bool) := do
  -- An event that is already stored is not applied again.
  require (observed.slot.toNat < 2 ^ 63) .slotExceedsBigint
  require (observed.id.instructionIndex.toNat < 2 ^ 31) .tryFromInt
  require (observed.id.eventIndex.toNat < 2 ^ 31) .tryFromInt
  require (observed.event.version.toNat < 2 ^ 15) .tryFromInt
  require (0 < observed.event.version) .checkViolation
  let position : Position := ⟨observed.slot.toNat, observed.id.instructionIndex.toNat,
    observed.id.eventIndex.toNat⟩
  match db.protocolEvents observed.id with
  | some _ => return (db.updateCheckpoint observed position, false)
  | none =>
    let row : EventRow Pubkey := ⟨observed.slot.toNat, observed.blockTime, observed.event⟩
    let stored := { db with
      protocolEvents := Function.update db.protocolEvents observed.id (some row) }
    let projected ← stored.applyProjection observed position
    return (projected.updateCheckpoint observed position, true)

def persistAll (db : Database Pubkey) (events : List (ObservedEvent Pubkey)) :
    Except PersistError (Database Pubkey) :=
  events.foldlM (fun db observed => (·.1) <$> db.persist observed) db

end Database

end Observer

end IronVault
