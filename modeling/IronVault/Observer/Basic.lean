import Mathlib.Data.Prod.Lex
import Mathlib.Order.Lattice
import IronVault.Util.Checked
import IronVault.Program.Events

/-!
This module contains the data of the observer: the events it decodes from finalized transactions and
the tables that it keeps of them. A column that a CHECK constraint or an enumeration restricts has a
type that does.
-/

namespace IronVault.Observer

structure EventId where
  -- The primary key of `protocol_events`.
  transactionSignature : String
  instructionIndex : UInt32
  eventIndex : UInt32
  deriving DecidableEq

structure ObservedEvent (Pubkey : Type) where
  id : EventId
  slot : UInt64
  blockTime : Option Int64
  event : IronVaultEvent Pubkey
  deriving DecidableEq

@[ext]
structure Position where
  slot : Nat
  instructionIndex : Nat
  eventIndex : Nat
  deriving DecidableEq

namespace Position

def key (p : Position) : Nat ×ₗ Nat ×ₗ Nat :=
  toLex (p.slot, toLex (p.instructionIndex, p.eventIndex))

theorem key_injective : Function.Injective key := by
  intro p q h
  simp only [key, EmbeddingLike.apply_eq_iff_eq, Prod.mk.injEq] at h
  exact Position.ext h.1 h.2.1 h.2.2

instance : LinearOrder Position :=
  LinearOrder.lift' key key_injective

theorem lt_iff {p q : Position} :
    p < q ↔ p.slot < q.slot ∨ p.slot = q.slot ∧ (p.instructionIndex < q.instructionIndex ∨
      p.instructionIndex = q.instructionIndex ∧ p.eventIndex < q.eventIndex) := by
  change key p < key q ↔ _
  simp [key, Prod.Lex.toLex_lt_toLex]

end Position

structure EventRow (Pubkey : Type) where
  slot : Nat
  blockTime : Option Int64
  event : IronVaultEvent Pubkey

/--
A row of a projection. Every projection ends in the columns `last_slot`, `last_instruction_index`,
`last_event_index` and `last_signature`.
-/
structure Row (Columns : Type) where
  columns : Columns
  last : Position
  lastSignature : String

structure EscrowColumns (Pubkey : Type) where
  escrowToken : Pubkey
  maker : Pubkey
  recipient : Pubkey
  mint : Pubkey
  amount : UInt64
  escrowId : UInt64
  createdAt : Int64
  expiresAt : Int64
  status : EscrowStatus

structure VaultColumns (Pubkey : Type) where
  namespaceAuthority : Pubkey
  authority : Pubkey
  guardian : Pubkey
  vaultId : UInt64
  paused : Bool

structure WithdrawalColumns (Pubkey : Type) where
  vault : Pubkey
  vaultAsset : Pubkey
  proposer : Pubkey
  recipientOwner : Pubkey
  recipientTokenAccount : Pubkey
  mint : Pubkey
  withdrawalId : UInt64
  amount : UInt64
  createdAt : Int64
  executeAfter : Int64
  expiresAt : Int64
  status : WithdrawalStatus

structure Checkpoint where
  position : Position
  transactionSignature : String

structure Database (Pubkey : Type) where
  protocolEvents : EventId → Option (EventRow Pubkey)
  escrows : Pubkey → Option (Row (EscrowColumns Pubkey))
  vaults : Pubkey → Option (Row (VaultColumns Pubkey))
  withdrawalRequests : Pubkey → Option (Row (WithdrawalColumns Pubkey))
  syncCheckpoint : Option Checkpoint

def Database.empty {Pubkey : Type} : Database Pubkey where
  protocolEvents _ := none
  escrows _ := none
  vaults _ := none
  withdrawalRequests _ := none
  syncCheckpoint := none

end IronVault.Observer
