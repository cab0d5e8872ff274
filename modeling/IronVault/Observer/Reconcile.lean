import IronVault.Observer.Lemmas.Rpc
import IronVault.Observer.ReadModel
import IronVault.Observer.Segment

/-!
This module contains when a call of `reconcile` repairs every missed notification. A notification
moves the checkpoint past the transactions that were missed before, and the paging loop stops at the
page with the checkpoint. What was missed in older pages stays missing.
-/

namespace IronVault.Observer

variable {Pubkey : Type} [DecidableEq Pubkey]

def FinalizedTransaction.Stored (tx : FinalizedTransaction) (settings : ObserverSettings Pubkey)
    (db : Database Pubkey) : Prop :=
  ∀ observed ∈ tx.events settings, (db.protocolEvents observed.id).isSome

def AllStored (settings : ObserverSettings Pubkey) (history : List FinalizedTransaction)
    (db : Database Pubkey) : Prop :=
  ∀ tx ∈ history, tx.err = false → tx.Stored settings db

/--
Every successful transaction with a missing event is at most as many pages back as the checkpoint.
-/
def World.Repairable (settings : ObserverSettings Pubkey) (w : World Pubkey) : Prop :=
  ∀ tx ∈ w.history, tx.err = false → ¬ tx.Stored settings w.database →
    tx ∈ reconciled w.database.checkpointSignature w.history

section

variable {settings : ObserverSettings Pubkey} {w w' : World Pubkey}

theorem allStored_iff_repairable {batches : List (List FinalizedTransaction)}
    (h : WorldStep settings w (.reconcile batches) w') :
    AllStored settings w.history w'.database ↔ w.Repairable settings := by
  cases h with
  | reconcile hdistinct hevents hpersist =>
    constructor
    . intro hall tx htx herr hmissing
      -- the missing event was persisted by this call, and only with its own transaction
      unfold FinalizedTransaction.Stored at hmissing
      push Not at hmissing
      obtain ⟨observed, hobserved, hnone⟩ := hmissing
      have hstored := hall tx htx herr observed hobserved
      rw [Database.persistAll_isSome_iff hpersist] at hstored
      obtain ⟨observed', hobserved', hid⟩ := hstored.resolve_left hnone
      obtain ⟨tx', htx', -, hobserved'⟩ := (mem_reconcileEvents hdistinct hevents).mp hobserved'
      have hsignature : tx'.signature = tx.signature := by
        rw [← decodableEvents_signature settings hobserved', hid,
          decodableEvents_signature settings hobserved]
      have hhistory : tx' ∈ w.history := List.mem_reverse.mp (List.mem_of_mem_take htx')
      rwa [← hdistinct.left.eq_of_signature_eq hhistory htx hsignature]
    . intro hrepairable tx htx herr observed hobserved
      rw [Database.persistAll_isSome_iff hpersist]
      by_cases hstored : tx.Stored settings w.database
      . exact .inl (hstored observed hobserved)
      . right
        refine ⟨observed, ?_, rfl⟩
        rw [mem_reconcileEvents hdistinct hevents]
        exact ⟨tx, hrepairable tx htx herr hstored, herr, hobserved⟩

end

theorem no_event_lost_iff {settings : ObserverSettings Pubkey}
    {tr : List (Transition (World Pubkey) WorldAction)} {w : World Pubkey}
    (run : Run (WorldStep settings) World.initial tr w) {x : Transition (World Pubkey) WorldAction}
    (hx : x ∈ tr) {batches : List (List FinalizedTransaction)} (ha : x.action = .reconcile batches) :
    AllStored settings x.pre.history x.post.database ↔ x.pre.Repairable settings := by
  obtain ⟨_, -, hstep⟩ := run.of_mem hx
  rw [ha] at hstep
  exact allStored_iff_repairable hstep

theorem run_finalize (settings : ObserverSettings Pubkey) {history : List FinalizedTransaction}
    (h : DistinctSignatures history) :
    ∃ tr, Run (WorldStep settings) World.initial tr ⟨history, .empty⟩ := by
  induction history using List.reverseRecOn with
  | nil => exact ⟨[], .nil⟩
  | append_singleton history tx ih =>
    obtain ⟨tr, run⟩ := ih h.left
    exact ⟨_, run.snoc (.finalize h)⟩

end IronVault.Observer

namespace IronVault.Scenario

open Observer

def burst (n : Nat) : FinalizedTransaction where
  -- Only the newest and the oldest one log an event.
  signature := unary n
  slot := 1001 - n.toUInt64
  blockTime := some 1700000000
  err := false
  logs :=
    if n = 0 then
      (transaction "pause" 0 0 (vaultPauseUpdatedLine true)).logs
    else if n = 1000 then
      (transaction "create" 0 0 vaultCreatedLine).logs
    else
      ["Program ComputeBudget invoke [1]".toList, "Program ComputeBudget success".toList]

@[irreducible]
def burstHistory : List FinalizedTransaction :=
  ((List.range 1001).map burst).reverse

theorem burst_signature_injective : Function.Injective fun n => (burst n).signature :=
  unary_injective

theorem distinctSignatures_burst (n : Nat) :
    DistinctSignatures ((List.range n).map burst).reverse := by
  unfold DistinctSignatures
  rw [List.pairwise_reverse, List.pairwise_map]
  apply List.nodup_range.imp
  intro i j hne heq
  exact hne (burst_signature_injective heq.symm)

theorem distinctSignatures_burstHistory : DistinctSignatures burstHistory := by
  unfold burstHistory
  exact distinctSignatures_burst 1001

theorem page_burstHistory :
    burstHistory.reverse.take signaturesLimit = (List.range 1000).map burst := by
  unfold burstHistory signaturesLimit
  rw [List.reverse_reverse, ← List.map_take, List.take_range, Nat.min_eq_left (by omega)]

theorem newest_mem_page :
    (burstHistory.reverse.take signaturesLimit).any (some ·.signature = some "") := by
  rw [page_burstHistory, List.any_eq_true]
  refine ⟨burst 0, ?_, by decide⟩
  apply List.mem_map_of_mem
  rw [List.mem_range]
  omega

theorem mem_burstHistory {n : Nat} (h : n < 1001) : burst n ∈ burstHistory := by
  unfold burstHistory
  rw [List.mem_reverse]
  exact List.mem_map_of_mem (List.mem_range.mpr h)

theorem events_burst_eq_nil {n : Nat} (hn : n ≠ 0) (hn' : n ≠ 1000) :
    (burst n).events settings = [] := by
  unfold FinalizedTransaction.events burst
  rw [if_neg hn, if_neg hn', decodableEvents_eq]
  rfl

theorem events_burst_zero :
    (burst 0).events settings
      = [⟨⟨"", 0, 0⟩, 1001, some 1700000000, vaultPauseUpdated true⟩] := by
  decide +kernel

theorem notify_burst :
    ∃ db : Database Key,
      Database.empty.persistAll (((burst 0).liveEvents settings).take 1) = .ok db ∧
      db.checkpointSignature = some "" := by
  have hcheckpoint : ((Database.empty.persistAll
      (((burst 0).liveEvents settings).take 1)).toOption.bind Database.checkpointSignature)
        = some "" := by decide +kernel
  cases hpersist : Database.empty.persistAll (((burst 0).liveEvents settings).take 1) with
  | error e =>
    rw [hpersist] at hcheckpoint
    simp [Except.toOption] at hcheckpoint
  | ok db =>
    rw [hpersist] at hcheckpoint
    exact ⟨db, rfl, hcheckpoint⟩

theorem reconcile_burst {db : Database Key} (hcheckpoint : db.checkpointSignature = some "") :
    ∃ db', WorldStep settings ⟨burstHistory, db⟩ (.reconcile []) ⟨burstHistory ++ [], db'⟩ := by
  have hdistinct : DistinctSignatures (burstHistory ++ []) := by
    rw [List.append_nil]
    exact distinctSignatures_burstHistory
  obtain ⟨events, hevents⟩ :
      ∃ events, settings.reconcileEvents (some "") burstHistory [] = some events :=
    reconcileEvents_of_stop hdistinct.left (.inl newest_mem_page)
  have hmem : ∀ observed ∈ events, observed
      = ⟨⟨"", 0, 0⟩, 1001, some 1700000000, vaultPauseUpdated true⟩ := by
    intro observed hobserved
    rw [mem_reconcileEvents hdistinct hevents, reconciled_of_stop (.inl newest_mem_page),
      page_burstHistory] at hobserved
    obtain ⟨_, htx, -, hobserved⟩ := hobserved
    obtain ⟨n, hn, rfl⟩ := List.mem_map.mp htx
    rw [List.mem_range] at hn
    by_cases hzero : n = 0
    . rw [hzero, events_burst_zero] at hobserved
      exact List.mem_singleton.mp hobserved
    . rw [events_burst_eq_nil hzero (by omega)] at hobserved
      simp at hobserved
  obtain ⟨db', hpersist⟩ : ∃ db', db.persistAll events = .ok db' := by
    apply Database.persistAll_succeeds
    . intro observed hobserved
      rw [hmem observed hobserved]
      constructor <;> decide
    . intro observed hobserved
      rw [hmem observed hobserved]
      constructor
      . decide
      . decide
      . simp [vaultPauseUpdated]
      . simp [vaultPauseUpdated]
  rw [← hcheckpoint] at hevents
  exact ⟨db', .reconcile hdistinct hevents hpersist⟩

theorem reconcile_paused :
    ∃ db, WorldStep settings ⟨pausedTransactions, .empty⟩ (.reconcile [])
      ⟨pausedTransactions, db⟩ := by
  have hdistinct : DistinctSignatures (pausedTransactions ++ [].flatten) := by decide
  obtain ⟨events, hevents⟩ : ∃ events,
      settings.reconcileEvents none pausedTransactions [] = some events :=
    reconcileEvents_of_stop hdistinct.left (.inr (by decide))
  have honly : DeliversOnly events (chainEvents settings pausedTransactions) := by
    intro observed hobserved
    obtain ⟨tx, htx, -, hobserved⟩ := (mem_reconcileEvents hdistinct hevents).mp hobserved
    have htx' : tx ∈ pausedTransactions := List.mem_reverse.mp (List.mem_of_mem_take htx)
    exact ⟨observed, List.mem_flatMap.mpr ⟨tx, htx', hobserved⟩, rfl⟩
  obtain ⟨db, hpersist⟩ :=
    finalized_paused.persistAll_succeeds history_paused honly
  exact ⟨db, .reconcile hdistinct hevents hpersist⟩

theorem repairable_paused :
    World.Repairable settings ⟨pausedTransactions, .empty⟩ := by
  intro tx htx _ _
  have hlen : pausedTransactions.length < signaturesLimit := by decide
  rw [reconciled_of_stop (.inr hlen), List.take_of_length_le, List.mem_reverse]
  . exact htx
  . rw [List.length_reverse]
    exact hlen.le

end IronVault.Scenario

namespace IronVault.Observer

open Scenario

theorem event_lost :
    ¬ ∀ (settings : ObserverSettings Key) (tr : List (Transition (World Key) WorldAction))
      (w : World Key) (x : Transition (World Key) WorldAction)
      (batches : List (List FinalizedTransaction)), Run (WorldStep settings) World.initial tr w →
      x ∈ tr → x.action = .reconcile batches →
      AllStored settings x.pre.history x.post.database := by
  intro h
  obtain ⟨tr, run⟩ := run_finalize settings distinctSignatures_burstHistory
  obtain ⟨db, hpersist, hcheckpoint⟩ := notify_burst
  obtain ⟨db', hstep⟩ := reconcile_burst hcheckpoint
  have hnotify : WorldStep settings ⟨burstHistory, .empty⟩ (.notify (burst 0)) ⟨burstHistory, db⟩ :=
    .notify (mem_burstHistory (by omega)) rfl hpersist
  have hall : AllStored settings burstHistory db' :=
    h settings _ _ ⟨⟨burstHistory, db⟩, .reconcile [], ⟨burstHistory ++ [], db'⟩⟩ []
      ((run.snoc hnotify).snoc hstep) (by simp) rfl
  have hrepairable := (allStored_iff_repairable hstep).mp hall
  -- the oldest transaction is missing, and it is on the second page
  have hmissing : ¬ (burst 1000).Stored settings db := by
    intro hstored
    obtain ⟨observed, hobserved⟩ : ∃ observed, observed ∈ (burst 1000).events settings := by
      apply List.exists_mem_of_ne_nil
      rw [← List.isEmpty_eq_false_iff]
      decide +kernel
    have hsome := hstored observed hobserved
    rw [Database.persistAll_isSome_iff hpersist] at hsome
    obtain ⟨observed', hobserved', hid⟩ := hsome.resolve_left (by simp [Database.empty])
    have hsignature := decodableEvents_signature settings (List.mem_of_mem_take hobserved')
    rw [hid, decodableEvents_signature settings hobserved] at hsignature
    exact absurd (burst_signature_injective hsignature) (by decide)
  have hread := hrepairable (burst 1000) (mem_burstHistory (by omega)) rfl hmissing
  dsimp only at hread
  rw [hcheckpoint, reconciled_of_stop (.inl newest_mem_page), page_burstHistory] at hread
  obtain ⟨n, hn, heq⟩ := List.mem_map.mp hread
  rw [List.mem_range, burst_signature_injective (congrArg FinalizedTransaction.signature heq)] at hn
  exact absurd hn (by decide)

theorem no_event_lost_paused :
    ∃ tr w db, Run (WorldStep settings) World.initial tr w ∧
      ⟨⟨pausedTransactions, .empty⟩, .reconcile [], ⟨pausedTransactions, db⟩⟩ ∈ tr ∧
      AllStored settings pausedTransactions db := by
  obtain ⟨tr, run⟩ := run_finalize settings finalized_paused.distinct
  obtain ⟨db, hstep⟩ := reconcile_paused
  have hmem : (⟨⟨pausedTransactions, .empty⟩, .reconcile [], ⟨pausedTransactions, db⟩⟩
      : Transition (World Key) WorldAction)
        ∈ tr ++ [⟨⟨pausedTransactions, .empty⟩, .reconcile [], ⟨pausedTransactions, db⟩⟩] := by simp
  exact ⟨_, _, db, run.snoc hstep, hmem,
    (no_event_lost_iff (run.snoc hstep) hmem rfl).mpr repairable_paused⟩

end IronVault.Observer
