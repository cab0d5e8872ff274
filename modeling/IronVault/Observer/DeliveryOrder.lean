import IronVault.Observer.ReadModel

/-!
This module contains when the order in which events are delivered matters. An update is lost for
ever if it is delivered before its row is created, or after a later update of any column of the row.
-/

namespace IronVault.Observer

variable {Pubkey : Type} [DecidableEq Pubkey] [Solana Pubkey]

structure Delivers (deliveries chain : List (ObservedEvent Pubkey)) : Prop where
  only : DeliversOnly deliveries chain
  all : ∀ e ∈ chain, ∃ d ∈ deliveries, d.withoutBlockTime = e.withoutBlockTime

structure SameTables (db db' : Database Pubkey) : Prop where
  escrows (key : Pubkey) :
    (db.escrows key).map (fun row => row.columns.status)
      = (db'.escrows key).map (fun row => row.columns.status)
  vaults (key : Pubkey) :
    (db.vaults key).map (fun row => (row.columns.authority, row.columns.paused))
      = (db'.vaults key).map (fun row => (row.columns.authority, row.columns.paused))
  withdrawalRequests (key : Pubkey) :
    (db.withdrawalRequests key).map (fun row => row.columns.status)
      = (db'.withdrawalRequests key).map (fun row => row.columns.status)

section

variable {Columns View : Type} (t : Projection Pubkey Columns View)

/--
Replaying the chain without the updates that the deliveries lose leaves every row as replaying all
of it does. An update is lost if it is first delivered before the creation of its row, or after a
later update of the row that is first delivered after the creation.
-/
def Projection.LossHarmless (deliveries chain : List (ObservedEvent Pubkey)) : Prop :=
  ∀ key,
    let delivered := (firstDeliveries deliveries).filterMap (t.write key)
    let written := chain.filterMap (t.write key)
    (Register.replay ((written.filter (Register.survives delivered)).map Register.Write.op)).map t.view
      = (Register.replay (written.map Register.Write.op)).map t.view

end

section

variable {settings : ObserverSettings Pubkey}
  {tr : List (Transition (State Pubkey) (Action Pubkey))} {s : State Pubkey}
  {txs : List FinalizedTransaction} {deliveries : List (ObservedEvent Pubkey)}
  {db : Database Pubkey}

theorem Finalized.id_nodup (h : Finalized settings tr txs) :
    ((chainEvents settings txs).map ObservedEvent.id).Nodup := by
  unfold chainEvents List.Nodup
  rw [List.pairwise_map, List.pairwise_flatMap]
  constructor
  . intro tx htx
    have hpairwise : (tx.events settings).Pairwise fun e e' => e.id.Before e'.id :=
      decodableEvents_pairwise settings (h.logs_lt tx htx)
    apply hpairwise.imp
    intro e e' hbefore heq
    rw [heq] at hbefore
    simp [EventId.Before] at hbefore
  . apply h.distinct.imp
    intro tx tx' hne e he e' he' heq
    apply hne
    rw [← decodableEvents_signature settings he, ← decodableEvents_signature settings he', heq]

theorem Delivers.perm (h : Finalized settings tr txs)
    (hdelivers : Delivers deliveries (chainEvents settings txs)) :
    ((firstDeliveries deliveries).map ObservedEvent.withoutBlockTime).Perm
      ((chainEvents settings txs).map ObservedEvent.withoutBlockTime) := by
  have hnodup {events : List (ObservedEvent Pubkey)} (hid : (events.map ObservedEvent.id).Nodup) :
      (events.map ObservedEvent.withoutBlockTime).Nodup := by
    apply List.Nodup.of_map ObservedEvent.id
    rwa [List.map_map]
  rw [List.perm_ext_iff_of_nodup (hnodup (firstDeliveries_nodup deliveries)) (hnodup h.id_nodup)]
  intro x
  simp only [List.mem_map]
  constructor
  . rintro ⟨d, hd, rfl⟩
    obtain ⟨e, he, heq⟩ := hdelivers.only d (mem_of_mem_firstDeliveries hd)
    exact ⟨e, he, heq.symm⟩
  . rintro ⟨e, he, rfl⟩
    obtain ⟨d, hd, heq⟩ := hdelivers.all e he
    obtain ⟨first, hfirst, hid⟩ := exists_firstDelivery hd
    obtain ⟨e', he', heq'⟩ := hdelivers.only first (mem_of_mem_firstDeliveries hfirst)
    -- the first delivery has the id of `e`, and the chain has only one event with this id
    have hsame : e'.id = e.id := by
      simp only [ObservedEvent.withoutBlockTime, ObservedEvent.mk.injEq] at heq heq'
      rw [← heq'.1, hid, heq.1]
    rw [List.inj_on_of_nodup_map h.id_nodup he' he hsame] at heq'
    exact ⟨first, hfirst, heq'⟩

omit [DecidableEq Pubkey] [Solana Pubkey] in
theorem Finalized.slotOrdered_of_lt (hslots : txs.Pairwise fun tx tx' => tx.slot < tx'.slot) :
    SlotOrdered (chainEvents settings txs) := by
  unfold SlotOrdered chainEvents
  rw [List.pairwise_flatMap]
  constructor
  . intro tx htx
    apply List.pairwise_of_forall_mem_list
    intro e he e' he' hne
    rw [decodableEvents_signature settings he, decodableEvents_signature settings he'] at hne
    exact absurd rfl hne
  . apply hslots.imp
    intro tx tx' hlt e he e' he' _ hslot
    rw [(mem_decodableEvents settings he).1, (mem_decodableEvents settings he').1] at hslot
    rw [hslot] at hlt
    exact absurd hlt (UInt64.lt_irrefl _)

variable {Columns View : Type} (t : Projection Pubkey Columns View) (key : Pubkey)

theorem Projection.rows_of_delivers (hrun : History tr s) (h : Finalized settings tr txs)
    (hslots : txs.Pairwise fun tx tx' => tx.slot < tx'.slot)
    (hdelivers : Delivers deliveries (chainEvents settings txs))
    (hpersist : Database.empty.persistAll deliveries = .ok db) :
    (t.rows db key).map (fun row => t.view row.columns)
      = (Register.replay ((((chainEvents settings txs).filterMap (t.write key)).filter
          (Register.survives ((firstDeliveries deliveries).filterMap (t.write key)))).map
            Register.Write.op)).map t.view := by
  have hsorted := t.writes_pairwise key h (Finalized.slotOrdered_of_lt hslots)
  have hlife := (t.account_history key hrun).1
  rw [← h.events_eq, ← t.writes_ops] at hlife
  have hperm : ((firstDeliveries deliveries).filterMap (t.write key)).Perm
      ((chainEvents settings txs).filterMap (t.write key)) := by
    have hmap := (hdelivers.perm h).filterMap (t.write key)
    rwa [List.filterMap_map, List.filterMap_map] at hmap
  have hvalue := Register.run_of_perm hperm hsorted (.of_lifecycle hsorted hlife)
  rw [← hvalue, ← t.rows_persistAll key hpersist, Option.map_map, Option.map_map]
  rfl

theorem Projection.rows_in_order (h : Finalized settings tr txs)
    (hslots : txs.Pairwise fun tx tx' => tx.slot < tx'.slot)
    (hpersist : Database.empty.persistAll (chainEvents settings txs) = .ok db) :
    (t.rows db key).map (fun row => t.view row.columns)
      = (Register.replay (((chainEvents settings txs).filterMap (t.write key)).map
          Register.Write.op)).map t.view := by
  have hsorted := t.writes_pairwise key h (Finalized.slotOrdered_of_lt hslots)
  have hrows := t.rows_persistAll key hpersist
  rw [firstDeliveries_of_nodup h.id_nodup] at hrows
  rw [← Register.run_of_pairwise hsorted, ← hrows, Option.map_map, Option.map_map]
  rfl

end

theorem delivery_order_irrelevant_iff {settings : ObserverSettings Pubkey}
    {tr : List (Transition (State Pubkey) (Action Pubkey))} {s : State Pubkey}
    {txs : List FinalizedTransaction} {deliveries : List (ObservedEvent Pubkey)}
    (hrun : History tr s) (h : Finalized settings tr txs)
    (hslots : txs.Pairwise fun tx tx' => tx.slot < tx'.slot)
    (hdelivers : Delivers deliveries (chainEvents settings txs)) :
    ∃ db db', Database.empty.persistAll deliveries = .ok db ∧
      Database.empty.persistAll (chainEvents settings txs) = .ok db' ∧
      (SameTables db db' ↔
        Projection.escrows.LossHarmless deliveries (chainEvents settings txs) ∧
        Projection.vaults.LossHarmless deliveries (chainEvents settings txs) ∧
        Projection.withdrawalRequests.LossHarmless deliveries (chainEvents settings txs)) := by
  obtain ⟨db, hpersist⟩ := h.persistAll_succeeds hrun hdelivers.only
  have honly : DeliversOnly (chainEvents settings txs) (chainEvents settings txs) := by
    intro e he
    exact ⟨e, he, rfl⟩
  obtain ⟨db', hpersist'⟩ := h.persistAll_succeeds hrun honly
  have hiff {Columns View : Type} (t : Projection Pubkey Columns View) :
      (∀ key, (t.rows db key).map (fun row => t.view row.columns)
        = (t.rows db' key).map (fun row => t.view row.columns)) ↔
      t.LossHarmless deliveries (chainEvents settings txs) := by
    unfold Projection.LossHarmless
    apply forall_congr'
    intro key
    rw [t.rows_of_delivers key hrun h hslots hdelivers hpersist,
      t.rows_in_order key h hslots hpersist']
  refine ⟨db, db', hpersist, hpersist', ?_⟩
  rw [← hiff, ← hiff, ← hiff]
  constructor
  . intro hsame
    exact ⟨hsame.escrows, hsame.vaults, hsame.withdrawalRequests⟩
  . rintro ⟨hescrows, hvaults, hrequests⟩
    exact ⟨hescrows, hvaults, hrequests⟩

open Scenario in
theorem delivery_order_relevant :
    ¬ ∀ (settings : ObserverSettings Key) (tr : List (Transition (State Key) (Action Key)))
      (s : State Key) (txs : List FinalizedTransaction) (deliveries : List (ObservedEvent Key))
      (db db' : Database Key), History tr s → Finalized settings tr txs →
      (txs.Pairwise fun tx tx' => tx.slot < tx'.slot) →
      Delivers deliveries (chainEvents settings txs) →
      Database.empty.persistAll deliveries = .ok db →
      Database.empty.persistAll (chainEvents settings txs) = .ok db' → SameTables db db' := by
  intro h
  have hrun := history_paused
  have hdelivers : Delivers (chainEvents settings pausedTransactions).reverse
      (chainEvents settings pausedTransactions) := by
    constructor <;> intro e he
    . exact ⟨e, List.mem_reverse.mp he, rfl⟩
    . exact ⟨e, List.mem_reverse.mpr he, rfl⟩
  obtain ⟨db, hpersist⟩ := finalized_paused.persistAll_succeeds hrun hdelivers.only
  obtain ⟨db', hpersist'⟩ := finalized_paused.persistAll_succeeds hrun fun e he => ⟨e, he, rfl⟩
  have hsame := (h _ _ _ _ _ _ _ hrun finalized_paused (by decide +kernel) hdelivers hpersist
    hpersist').vaults vault
  -- the pause comes before the row exists and is lost
  have hrow : ((Database.empty.persistAll (chainEvents settings pausedTransactions).reverse).toOption.bind
      fun db => (db.vaults vault).map fun row => (row.columns.authority, row.columns.paused))
        = some (authority, false) := by decide +kernel
  have hrow' : ((Database.empty.persistAll (chainEvents settings pausedTransactions)).toOption.bind
      fun db => (db.vaults vault).map fun row => (row.columns.authority, row.columns.paused))
        = some (authority, true) := by decide +kernel
  rw [hpersist] at hrow
  rw [hpersist'] at hrow'
  change (db.vaults vault).map _ = _ at hrow
  change (db'.vaults vault).map _ = _ at hrow'
  rw [hrow, hrow'] at hsame
  simp at hsame

open Scenario in
theorem delivery_order_irrelevant_iff_tail :
    ∃ db db',
      Database.empty.persistAll ((chainEvents settings pausedTransactions).tail
        ++ chainEvents settings pausedTransactions) = .ok db ∧
      Database.empty.persistAll (chainEvents settings pausedTransactions) = .ok db' ∧
      (SameTables db db' ↔
        Projection.escrows.LossHarmless ((chainEvents settings pausedTransactions).tail
          ++ chainEvents settings pausedTransactions) (chainEvents settings pausedTransactions) ∧
        Projection.vaults.LossHarmless ((chainEvents settings pausedTransactions).tail
          ++ chainEvents settings pausedTransactions) (chainEvents settings pausedTransactions) ∧
        Projection.withdrawalRequests.LossHarmless
          ((chainEvents settings pausedTransactions).tail
            ++ chainEvents settings pausedTransactions)
          (chainEvents settings pausedTransactions)) := by
  apply delivery_order_irrelevant_iff history_paused finalized_paused
    (by decide +kernel)
  constructor <;> intro e he
  . cases List.mem_append.mp he with
    | inl he => exact ⟨e, List.mem_of_mem_tail he, rfl⟩
    | inr he => exact ⟨e, he, rfl⟩
  . exact ⟨e, List.mem_append_right _ he, rfl⟩

end IronVault.Observer
