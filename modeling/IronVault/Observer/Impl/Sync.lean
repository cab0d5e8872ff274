import IronVault.Observer.Impl.Rpc

/-!
This module contains the connection loop of the observer and the status that it reports. The loop is
one task, so only the chain moves while it handles a notification or calls
`reconcile_to_finalized_slot`.
-/

namespace IronVault.Observer

variable {Pubkey : Type} [DecidableEq Pubkey]

structure SyncStatus where
  connected : Bool
  reconciled : Bool
  observedSlot : UInt64
  rpcSlot : UInt64
deriving DecidableEq, Repr

namespace SyncStatus

def default : SyncStatus where
  connected := false
  reconciled := false
  observedSlot := 0
  rpcSlot := 0

def subscribed (status : SyncStatus) : SyncStatus :=
  { status with connected := true, reconciled := false }

def disconnected (status : SyncStatus) : SyncStatus :=
  { status with connected := false }

def notified (status : SyncStatus) (slot : UInt64) : SyncStatus :=
  { status with observedSlot := max status.observedSlot slot }

def reconciledTo (status : SyncStatus) (slot : UInt64) : SyncStatus :=
  { status with
    reconciled := true
    rpcSlot := slot
    observedSlot := max status.observedSlot slot }

def monitored (status : SyncStatus) (slot : UInt64) : SyncStatus :=
  { status with rpcSlot := slot }

def lag (status : SyncStatus) : UInt64 :=
  -- The source subtracts with `saturating_sub`.
  if status.observedSlot ≤ status.rpcSlot then status.rpcSlot - status.observedSlot else 0

def readyz (status : SyncStatus) (databaseReady : Bool) (maxReadySlotLag : UInt64) : Bool :=
  databaseReady && status.connected && status.reconciled && status.lag ≤ maxReadySlotLag

end SyncStatus

structure SyncWorld (Pubkey : Type) extends World Pubkey where
  finalizedSlot : UInt64
  status : SyncStatus

def SyncWorld.initial : SyncWorld Pubkey where
  history := []
  database := .empty
  finalizedSlot := 0
  status := .default

/--
The chain finalizes its slots up to `slot`, with the transactions `txs` of the program in them.
-/
structure SyncWorld.Finalizes (w : SyncWorld Pubkey) (txs : List FinalizedTransaction)
    (slot : UInt64) : Prop where
  distinct : DistinctSignatures (w.history ++ txs)
  slot_le : w.finalizedSlot ≤ slot
  later : ∀ tx ∈ txs, w.finalizedSlot < tx.slot ∧ tx.slot ≤ slot
  sorted : txs.Pairwise fun tx tx' => tx.slot ≤ tx'.slot

inductive SyncAction where
  | finalize (txs : List FinalizedTransaction) (slot : UInt64)
  | subscribe
  | disconnect
  | restart
  | monitorRpcSlot
  | notify (tx : FinalizedTransaction)
  | interruptedNotify (tx : FinalizedTransaction) (n : Nat)
  | interruptedReconcile (batches : List (List FinalizedTransaction)) (slot : UInt64)
  | reconcileToFinalizedSlot (batches : List (List FinalizedTransaction))
      (later : List FinalizedTransaction) (slot : UInt64)

/--
The steps of the observer and of the chain, between states in which no log message is processed. In
a call of `reconcile_to_finalized_slot` the `batches` are finalized until `reconcile` returns, and
`later` before `getSlot` is answered with `slot`.
-/
inductive SyncStep (settings : ObserverSettings Pubkey) :
    SyncWorld Pubkey → SyncAction → SyncWorld Pubkey → Prop where
  | finalize {w : SyncWorld Pubkey} {txs : List FinalizedTransaction} {slot : UInt64}
      (hfinalizes : w.Finalizes txs slot) :
      SyncStep settings w (.finalize txs slot)
        { w with history := w.history ++ txs, finalizedSlot := slot }
  | subscribe {w : SyncWorld Pubkey} (hconnected : w.status.connected = false) :
      SyncStep settings w .subscribe { w with status := w.status.subscribed }
  | disconnect {w : SyncWorld Pubkey} :
      SyncStep settings w .disconnect { w with status := w.status.disconnected }
  | restart {w : SyncWorld Pubkey} :
      SyncStep settings w .restart { w with status := .default }
  | monitorRpcSlot {w : SyncWorld Pubkey} :
      SyncStep settings w .monitorRpcSlot { w with status := w.status.monitored w.finalizedSlot }
  -- The loop is entered with the subscription in place and after the first call has returned.
  | notify {w : SyncWorld Pubkey} {tx : FinalizedTransaction} {database : Database Pubkey}
      (hconnected : w.status.connected = true) (hreconciled : w.status.reconciled = true)
      (hmem : tx ∈ w.history)
      (hpersist : w.database.persistAll (if tx.err then [] else tx.liveEvents settings)
        = .ok database) :
      SyncStep settings w (.notify tx)
        { w with database, status := w.status.notified tx.slot }
  | interruptedNotify {w : SyncWorld Pubkey} {tx : FinalizedTransaction} {n : Nat}
      {database : Database Pubkey}
      (hconnected : w.status.connected = true) (hreconciled : w.status.reconciled = true)
      (hmem : tx ∈ w.history) (herr : tx.err = false)
      (hpersist : w.database.persistAll ((tx.liveEvents settings).take n) = .ok database) :
      SyncStep settings w (.interruptedNotify tx n)
        { w with database, status := (w.status.notified tx.slot).disconnected }
  | interruptedReconcile {w : SyncWorld Pubkey} {world : World Pubkey}
      {batches : List (List FinalizedTransaction)} {slot : UInt64}
      (hconnected : w.status.connected = true)
      (hreconcile : WorldStep settings w.toWorld (.interruptedReconcile batches) world)
      (hfinalizes : w.Finalizes batches.flatten slot) :
      SyncStep settings w (.interruptedReconcile batches slot)
        ⟨world, slot, w.status.disconnected⟩
  | reconcileToFinalizedSlot {w : SyncWorld Pubkey} {world : World Pubkey}
      {batches : List (List FinalizedTransaction)} {later : List FinalizedTransaction}
      {slot : UInt64} (hconnected : w.status.connected = true)
      (hreconcile : WorldStep settings w.toWorld (.reconcile batches) world)
      (hfinalizes : w.Finalizes (batches.flatten ++ later) slot) :
      SyncStep settings w (.reconcileToFinalizedSlot batches later slot)
        ⟨{ world with history := world.history ++ later }, slot, w.status.reconciledTo slot⟩

end IronVault.Observer
