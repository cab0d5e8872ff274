import IronVault.Util.Run
import IronVault.Observer.Impl.Database
import IronVault.Observer.Impl.Logs

/-!
This module contains the observer as a transition system: the finalized history grows, the observer
is notified of transactions and reconciles with the history, and it can stop after any event that it
has persisted.
-/

namespace IronVault.Observer

variable {Pubkey : Type} [DecidableEq Pubkey]

structure FinalizedTransaction where
  signature : String
  slot : UInt64
  blockTime : Option Int64
  err : Bool
  logs : List Text

structure SignatureInfo where
  signature : String
  err : Bool

structure TransactionMeta where
  err : Bool
  logMessages : Option (List Text)

structure TransactionResult where
  slot : UInt64
  blockTime : Option Int64
  txMeta : Option TransactionMeta

def signaturesLimit : Nat := 1000

/--
A page of the newest signatures, or of the newest ones strictly before the signature `before`. The
history is in chain order, the page has the newest signature first.
-/
def getSignaturesForAddress (history : List FinalizedTransaction) (before : Option String) :
    List SignatureInfo :=
  let newestFirst : List SignatureInfo := history.reverse.map fun tx => ⟨tx.signature, tx.err⟩
  let older : List SignatureInfo :=
    match before with
    | none => newestFirst
    | some signature => (newestFirst.dropWhile (·.signature ≠ signature)).tail
  older.take signaturesLimit

def getTransaction (history : List FinalizedTransaction) (signature : String) :
    Option TransactionResult :=
  (history.find? (·.signature = signature)).map fun tx => {
    slot := tx.slot
    blockTime := tx.blockTime
    txMeta := some { err := tx.err, logMessages := some tx.logs }
  }

/--
The paging loop of `reconcile`. Before every request but the first one a batch of transactions is
finalized, without a batch for the next request the loop has not ended yet.
-/
def collectSignatures (checkpoint : Option String) (history : List FinalizedTransaction)
    (before : Option String) (batches : List (List FinalizedTransaction)) :
    Option (List SignatureInfo) :=
  let page := getSignaturesForAddress history before
  let signatures := page.filter (!·.err)
  if page.any (some ·.signature = checkpoint) || page.length < signaturesLimit then
    some signatures
  else
    match batches with
    | [] => none
    | batch :: batches =>
      (collectSignatures checkpoint (history ++ batch) (page.getLast?.map (·.signature)) batches).map
        (signatures ++ ·)

namespace ObserverSettings

def decodableEvents (settings : ObserverSettings Pubkey) (signature : String) (slot : UInt64)
    (blockTime : Option Int64) (logs : List Text) : List (ObservedEvent Pubkey) :=
  -- A line that cannot be decoded is only counted.
  (settings.extractEvents signature slot blockTime logs).filterMap Except.toOption

def transactionEvents (settings : ObserverSettings Pubkey) (history : List FinalizedTransaction)
    (signature : String) : List (ObservedEvent Pubkey) :=
  match getTransaction history signature with
  | none => []
  | some transaction =>
    match transaction.txMeta with
    | none => []
    | some txMeta =>
      if txMeta.err then
        []
      else
        match txMeta.logMessages with
        | none => []
        | some logs =>
          settings.decodableEvents signature transaction.slot transaction.blockTime logs

def reconcileEvents (settings : ObserverSettings Pubkey) (checkpoint : Option String)
    (history : List FinalizedTransaction) (batches : List (List FinalizedTransaction)) :
    Option (List (ObservedEvent Pubkey)) :=
  (collectSignatures checkpoint history none batches).map fun signatures =>
    signatures.reverse.flatMap fun info =>
      settings.transactionEvents (history ++ batches.flatten) info.signature

end ObserverSettings

def FinalizedTransaction.events (tx : FinalizedTransaction) (settings : ObserverSettings Pubkey) :
    List (ObservedEvent Pubkey) :=
  settings.decodableEvents tx.signature tx.slot tx.blockTime tx.logs

def FinalizedTransaction.liveEvents (tx : FinalizedTransaction) (settings : ObserverSettings Pubkey) :
    List (ObservedEvent Pubkey) :=
  -- A notification does not have the block time.
  settings.decodableEvents tx.signature tx.slot none tx.logs

structure World (Pubkey : Type) where
  history : List FinalizedTransaction
  database : Database Pubkey

def World.initial : World Pubkey where
  history := []
  database := .empty

def DistinctSignatures (history : List FinalizedTransaction) : Prop :=
  history.Pairwise fun tx tx' => tx.signature ≠ tx'.signature

instance {history : List FinalizedTransaction} : Decidable (DistinctSignatures history) :=
  inferInstanceAs (Decidable (history.Pairwise fun tx tx' => tx.signature ≠ tx'.signature))

inductive WorldAction where
  | finalize (tx : FinalizedTransaction)
  | notify (tx : FinalizedTransaction)
  | interruptedReconcile (batches : List (List FinalizedTransaction))
  | reconcile (batches : List (List FinalizedTransaction))

/--
The steps of the observer and of the chain. A notification may be for any transaction at any time,
and like a call of `reconcile` it may stop after `n` of the events that it persists.
-/
inductive WorldStep (settings : ObserverSettings Pubkey) :
    World Pubkey → WorldAction → World Pubkey → Prop where
  | finalize {w : World Pubkey} {tx : FinalizedTransaction}
      (hdistinct : DistinctSignatures (w.history ++ [tx])) :
      WorldStep settings w (.finalize tx) { w with history := w.history ++ [tx] }
  | notify {w : World Pubkey} {tx : FinalizedTransaction} {n : Nat} {database : Database Pubkey}
      (hmem : tx ∈ w.history) (herr : tx.err = false)
      (hpersist : w.database.persistAll ((tx.liveEvents settings).take n) = .ok database) :
      WorldStep settings w (.notify tx) { w with database }
  | interruptedReconcile {w : World Pubkey} {batches : List (List FinalizedTransaction)}
      {events : List (ObservedEvent Pubkey)} {n : Nat} {database : Database Pubkey}
      (hdistinct : DistinctSignatures (w.history ++ batches.flatten))
      (hevents : settings.reconcileEvents w.database.checkpointSignature w.history batches
        = some events)
      (hpersist : w.database.persistAll (events.take n) = .ok database) :
      WorldStep settings w (.interruptedReconcile batches)
        ⟨w.history ++ batches.flatten, database⟩
  | reconcile {w : World Pubkey} {batches : List (List FinalizedTransaction)}
      {events : List (ObservedEvent Pubkey)} {database : Database Pubkey}
      (hdistinct : DistinctSignatures (w.history ++ batches.flatten))
      (hevents : settings.reconcileEvents w.database.checkpointSignature w.history batches
        = some events)
      (hpersist : w.database.persistAll events = .ok database) :
      WorldStep settings w (.reconcile batches) ⟨w.history ++ batches.flatten, database⟩

end IronVault.Observer
