import IronVault.Program.Impl.Codec
import IronVault.Observer.Impl.Database

/-!
This module contains the columns of the tables with their types and CHECK constraints, and the values
that `persist` binds to them.
-/

namespace IronVault.Observer

inductive SqlType where
  | text
  | boolean
  | smallint
  | integer
  | bigint
  | numeric (precision : Nat)
  | jsonb

inductive Check where
  | none
  | atLeast (bound : Int)
  | above (bound : Int)
  | oneOf (values : List String)

structure Column where
  name : String
  type : SqlType
  check : Check := .none
  nullable : Bool := false

inductive SqlValue (Pubkey : Type) where
  | text (value : String)
  -- The key in base58.
  | pubkey (key : Pubkey)
  | boolean (value : Bool)
  | number (value : Int)
  | json
  | null

def protocolEventsTable : List Column := [
  { name := "transaction_signature", type := .text },
  { name := "instruction_index", type := .integer, check := .atLeast 0 },
  { name := "event_index", type := .integer, check := .atLeast 0 },
  { name := "slot", type := .bigint, check := .atLeast 0 },
  { name := "block_time", type := .bigint, nullable := true },
  { name := "event_name", type := .text },
  { name := "schema_version", type := .smallint, check := .above 0 },
  { name := "payload", type := .jsonb }
]

def lastColumns : List Column := [
  -- Every projection ends in these.
  { name := "last_slot", type := .bigint },
  { name := "last_instruction_index", type := .integer },
  { name := "last_event_index", type := .integer },
  { name := "last_signature", type := .text }
]

def escrowsTable : List Column := [
  { name := "escrow", type := .text },
  { name := "escrow_token", type := .text },
  { name := "maker", type := .text },
  { name := "recipient", type := .text },
  { name := "mint", type := .text },
  { name := "amount", type := .numeric 20, check := .above 0 },
  { name := "escrow_id", type := .numeric 20 },
  { name := "created_at", type := .bigint },
  { name := "expires_at", type := .bigint },
  { name := "status", type := .text, check := .oneOf ["funded", "released", "refunded"] }
] ++ lastColumns

def vaultsTable : List Column := [
  { name := "vault", type := .text },
  { name := "namespace_authority", type := .text },
  { name := "authority", type := .text },
  { name := "guardian", type := .text },
  { name := "vault_id", type := .numeric 20 },
  { name := "paused", type := .boolean }
] ++ lastColumns

def withdrawalRequestsTable : List Column := [
  { name := "withdrawal_request", type := .text },
  { name := "vault", type := .text },
  { name := "vault_asset", type := .text },
  { name := "proposer", type := .text },
  { name := "recipient_owner", type := .text },
  { name := "recipient_token_account", type := .text },
  { name := "mint", type := .text },
  { name := "withdrawal_id", type := .numeric 20 },
  { name := "amount", type := .numeric 20, check := .above 0 },
  { name := "created_at", type := .bigint },
  { name := "execute_after", type := .bigint },
  { name := "expires_at", type := .bigint },
  { name := "status", type := .text, check := .oneOf ["pending", "executed", "cancelled"] }
] ++ lastColumns

def syncCheckpointTable : List Column := [
  { name := "slot", type := .bigint, check := .atLeast 0 },
  { name := "transaction_signature", type := .text },
  { name := "instruction_index", type := .integer, check := .atLeast 0 },
  { name := "event_index", type := .integer, check := .atLeast 0 }
]

section Accepts

variable {Pubkey : Type}

def SqlType.fits : SqlType → SqlValue Pubkey → Bool
  | .text, .text _ => true
  | .text, .pubkey _ => true
  | .boolean, .boolean _ => true
  | .smallint, .number n => -2 ^ 15 ≤ n && n < 2 ^ 15
  | .integer, .number n => -2 ^ 31 ≤ n && n < 2 ^ 31
  | .bigint, .number n => -2 ^ 63 ≤ n && n < 2 ^ 63
  | .numeric precision, .number n => n.natAbs < 10 ^ precision
  | .jsonb, .json => true
  | _, _ => false

def Check.holds : Check → SqlValue Pubkey → Bool
  | .none, _ => true
  | .atLeast bound, .number n => bound ≤ n
  | .above bound, .number n => bound < n
  | .oneOf values, .text value => values.contains value
  | _, _ => false

def Column.accepts (column : Column) : SqlValue Pubkey → Bool
  | .null => column.nullable
  | value => column.type.fits value && column.check.holds value

structure SqlWrite (Pubkey : Type) where
  table : List Column
  values : List (String × SqlValue Pubkey)

def SqlWrite.accepted (write : SqlWrite Pubkey) : Bool :=
  write.values.all fun (name, value) =>
    match write.table.find? (·.name = name) with
    | some column => column.accepts value
    | none => false

end Accepts

namespace ObservedEvent

variable {Pubkey : Type} (observed : ObservedEvent Pubkey)

def slotValue : SqlValue Pubkey :=
  .number observed.slot.toNat

def instructionValue : SqlValue Pubkey :=
  .number observed.id.instructionIndex.toNat

def eventIndexValue : SqlValue Pubkey :=
  .number observed.id.eventIndex.toNat

def blockTimeValue : SqlValue Pubkey :=
  match observed.blockTime with
  | some blockTime => .number blockTime.toInt
  | none => .null

def lastValues : List (String × SqlValue Pubkey) := [
  ("last_slot", observed.slotValue),
  ("last_instruction_index", observed.instructionValue),
  ("last_event_index", observed.eventIndexValue),
  ("last_signature", .text observed.id.transactionSignature)
]

def eventWrite : SqlWrite Pubkey where
  table := protocolEventsTable
  values := [
    ("transaction_signature", .text observed.id.transactionSignature),
    ("instruction_index", observed.instructionValue),
    ("event_index", observed.eventIndexValue),
    ("slot", observed.slotValue),
    ("block_time", observed.blockTimeValue),
    ("event_name", .text observed.event.name),
    ("schema_version", .number observed.event.version.toNat),
    ("payload", .json)
  ]

def updateEscrowStatusWrite (escrow : Pubkey) (status : String) : SqlWrite Pubkey where
  table := escrowsTable
  values := [("escrow", .pubkey escrow), ("status", .text status)] ++ observed.lastValues

def updateWithdrawalStatusWrite (request : Pubkey) (status : String) : SqlWrite Pubkey where
  table := withdrawalRequestsTable
  values :=
    [("withdrawal_request", .pubkey request), ("status", .text status)] ++ observed.lastValues

def projectionWrite : Option (SqlWrite Pubkey) :=
  match observed.event with
  | .escrowCreated event => some {
      table := escrowsTable
      values := [
        ("escrow", .pubkey event.escrow),
        ("escrow_token", .pubkey event.escrowToken),
        ("maker", .pubkey event.maker),
        ("recipient", .pubkey event.recipient),
        ("mint", .pubkey event.mint),
        ("amount", .number event.amount.toNat),
        ("escrow_id", .number event.escrowId.toNat),
        ("created_at", .number event.createdAt.toInt),
        ("expires_at", .number event.expiresAt.toInt),
        ("status", .text "funded")
      ] ++ observed.lastValues
    }
  | .escrowReleased event => some (observed.updateEscrowStatusWrite event.escrow "released")
  | .escrowRefunded event => some (observed.updateEscrowStatusWrite event.escrow "refunded")
  | .vaultCreated event => some {
      table := vaultsTable
      values := [
        ("vault", .pubkey event.vault),
        ("namespace_authority", .pubkey event.namespaceAuthority),
        ("authority", .pubkey event.authority),
        ("guardian", .pubkey event.guardian),
        ("vault_id", .number event.vaultId.toNat),
        ("paused", .boolean false)
      ] ++ observed.lastValues
    }
  | .vaultAuthorityUpdated event => some {
      table := vaultsTable
      values := [
        ("vault", .pubkey event.vault),
        ("authority", .pubkey event.newAuthority)
      ] ++ observed.lastValues
    }
  | .vaultPauseUpdated event => some {
      table := vaultsTable
      values := [
        ("vault", .pubkey event.vault),
        ("paused", .boolean event.paused)
      ] ++ observed.lastValues
    }
  | .withdrawalRequested event => some {
      table := withdrawalRequestsTable
      values := [
        ("withdrawal_request", .pubkey event.withdrawalRequest),
        ("vault", .pubkey event.vault),
        ("vault_asset", .pubkey event.vaultAsset),
        ("proposer", .pubkey event.proposer),
        ("recipient_owner", .pubkey event.recipientOwner),
        ("recipient_token_account", .pubkey event.recipientTokenAccount),
        ("mint", .pubkey event.mint),
        ("withdrawal_id", .number event.withdrawalId.toNat),
        ("amount", .number event.amount.toNat),
        ("created_at", .number event.createdAt.toInt),
        ("execute_after", .number event.executeAfter.toInt),
        ("expires_at", .number event.expiresAt.toInt),
        ("status", .text "pending")
      ] ++ observed.lastValues
    }
  | .withdrawalExecuted event =>
    some (observed.updateWithdrawalStatusWrite event.withdrawalRequest "executed")
  | .withdrawalCancelled event =>
    some (observed.updateWithdrawalStatusWrite event.withdrawalRequest "cancelled")
  | _ => none

def checkpointWrite : SqlWrite Pubkey where
  table := syncCheckpointTable
  values := [
    ("slot", observed.slotValue),
    ("transaction_signature", .text observed.id.transactionSignature),
    ("instruction_index", observed.instructionValue),
    ("event_index", observed.eventIndexValue)
  ]

end ObservedEvent

def Database.writes {Pubkey : Type} (db : Database Pubkey) (observed : ObservedEvent Pubkey) :
    List (SqlWrite Pubkey) :=
  -- An event that is already stored has no write to a projection.
  match db.protocolEvents observed.id with
  | none => observed.eventWrite :: observed.projectionWrite.toList ++ [observed.checkpointWrite]
  | some _ => [observed.eventWrite, observed.checkpointWrite]

end IronVault.Observer
