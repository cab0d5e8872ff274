import IronVault.Observer.Impl.Sync
import IronVault.Observer.Reconcile

/-!
This module contains when the observed slot is truthful, i.e. when everything that was finalized up
to it is stored. The slot is asked for after the signatures were listed, and every notification
raises it, also one that arrives before others.
-/

namespace IronVault.Observer

variable {Pubkey : Type}

theorem le_max_slot_iff {slot a b : UInt64} : slot ≤ max a b ↔ slot ≤ a ∨ slot ≤ b := by
  simp only [max, Max.max]
  grind

theorem max_slot_le_iff {slot a b : UInt64} : max a b ≤ slot ↔ a ≤ slot ∧ b ≤ slot := by
  simp only [max, Max.max]
  grind

section

variable {settings : ObserverSettings Pubkey}

theorem FinalizedTransaction.liveEvents_ids (tx : FinalizedTransaction) :
    (tx.liveEvents settings).map ObservedEvent.id = (tx.events settings).map ObservedEvent.id := by
  unfold FinalizedTransaction.liveEvents FinalizedTransaction.events
  rw [decodableEvents_eq, decodableEvents_eq, List.map_filterMap, List.map_filterMap]
  apply List.filterMap_congr
  intro line _
  unfold decodeLine
  split <;> rfl

theorem FinalizedTransaction.exists_liveEvents_take_iff (tx : FinalizedTransaction) {n : Nat}
    {id : EventId} :
    (∃ observed ∈ (tx.liveEvents settings).take n, observed.id = id) ↔
      ∃ observed ∈ (tx.events settings).take n, observed.id = id := by
  rw [← List.mem_map, ← List.mem_map, List.map_take, List.map_take, tx.liveEvents_ids]

theorem FinalizedTransaction.notifiedEvents_subset (tx : FinalizedTransaction) :
    (if tx.err then [] else tx.liveEvents settings) ⊆ tx.liveEvents settings := by
  split
  . exact List.nil_subset _
  . exact List.Subset.refl _

end

/--
The history is in the finalized slots, and only its transactions are stored.
-/
structure SyncWorld.WF (w : SyncWorld Pubkey) : Prop where
  distinct : DistinctSignatures w.history
  slot_pos : ∀ tx ∈ w.history, 0 < tx.slot
  slot_le : ∀ tx ∈ w.history, tx.slot ≤ w.finalizedSlot
  observed_le : w.status.observedSlot ≤ w.finalizedSlot
  stored : ∀ id, (w.database.protocolEvents id).isSome →
    ∃ tx ∈ w.history, tx.signature = id.transactionSignature

namespace SyncWorld.WF

variable {settings : ObserverSettings Pubkey} {w : SyncWorld Pubkey}

theorem initial : (SyncWorld.initial : SyncWorld Pubkey).WF where
  distinct := .nil
  slot_pos := by simp [SyncWorld.initial]
  slot_le := by simp [SyncWorld.initial]
  observed_le := UInt64.le_refl _
  stored := by simp [SyncWorld.initial, Database.empty]

theorem finalizes_nil (h : w.WF) : w.Finalizes [] w.finalizedSlot where
  distinct := by
    rw [List.append_nil]
    exact h.distinct
  slot_le := UInt64.le_refl _
  later := by simp
  sorted := .nil

theorem observed (h : w.WF) {status : SyncStatus}
    (hstatus : status.observedSlot ≤ w.finalizedSlot) : ({ w with status } : SyncWorld Pubkey).WF :=
  ⟨h.distinct, h.slot_pos, h.slot_le, hstatus, h.stored⟩

theorem notified (h : w.WF) {tx : FinalizedTransaction} (htx : tx ∈ w.history) :
    (w.status.notified tx.slot).observedSlot ≤ w.finalizedSlot := by
  unfold SyncStatus.notified
  rw [max_slot_le_iff]
  exact ⟨h.observed_le, h.slot_le tx htx⟩

theorem reconcile_events {checkpoint : Option String} {history : List FinalizedTransaction}
    {batches : List (List FinalizedTransaction)} {events : List (ObservedEvent Pubkey)}
    (hdistinct : DistinctSignatures (history ++ batches.flatten))
    (hevents : settings.reconcileEvents checkpoint history batches = some events)
    {observed : ObservedEvent Pubkey} (hobserved : observed ∈ events) :
    ∃ tx ∈ history, tx.signature = observed.id.transactionSignature := by
  obtain ⟨tx, htx, -, hobserved⟩ := (mem_reconcileEvents hdistinct hevents).mp hobserved
  exact ⟨tx, List.mem_reverse.mp (List.mem_of_mem_take htx),
    (decodableEvents_signature settings hobserved).symm⟩

theorem reconciledTo (h : w.WF) {txs : List FinalizedTransaction} {slot : UInt64}
    (hfinalizes : w.Finalizes txs slot) : (w.status.reconciledTo slot).observedSlot = slot := by
  have hle := UInt64.le_trans h.observed_le hfinalizes.slot_le
  unfold SyncStatus.reconciledTo
  apply UInt64.le_antisymm
  . rw [max_slot_le_iff]
    exact ⟨hle, UInt64.le_refl _⟩
  . rw [le_max_slot_iff]
    exact .inr (UInt64.le_refl _)

end SyncWorld.WF

variable [DecidableEq Pubkey]

namespace SyncWorld

variable (settings : ObserverSettings Pubkey) (w : SyncWorld Pubkey)

def Truthful : Prop :=
  ∀ tx ∈ w.history, tx.err = false → tx.slot ≤ w.status.observedSlot →
    tx.Stored settings w.database

def Missing (tx : FinalizedTransaction) : Prop :=
  tx ∈ w.history ∧ tx.err = false ∧ ¬ tx.Stored settings w.database

end SyncWorld

/--
What keeps the observed slot truthful. A notification finds no other missing transaction up to its
slot. A call can repair what is missing, and no event is finalized before it returns.
-/
def SyncAction.Covered (settings : ObserverSettings Pubkey) (w : SyncWorld Pubkey) :
    SyncAction → Prop
  | .notify tx => ∀ tx', w.Missing settings tx' → tx'.slot ≤ tx.slot → tx' = tx
  | .interruptedNotify tx n =>
    ∀ tx', w.Missing settings tx' → tx'.slot ≤ tx.slot → tx' = tx ∧
      -- the events that were not persisted in time are stored already
      ∀ observed ∈ tx.events settings, (w.database.protocolEvents observed.id).isSome ∨
        ∃ persisted ∈ (tx.events settings).take n, persisted.id = observed.id
  | .reconcileToFinalizedSlot batches later _ =>
    w.Repairable settings ∧
      ∀ tx ∈ batches.flatten ++ later, tx.err = false → tx.events settings = []
  | _ => True

def Completed (tr : List (Transition (SyncWorld Pubkey) SyncAction)) : Prop :=
  ∃ x ∈ tr, ∃ batches later slot, x.action = .reconcileToFinalizedSlot batches later slot

namespace SyncWorld.WF

variable {settings : ObserverSettings Pubkey} {w w' : SyncWorld Pubkey} {a : SyncAction}

/--
The chain grows and the database gets events of transactions of the history only.
-/
theorem advance (h : w.WF) {txs : List FinalizedTransaction} {slot : UInt64}
    (hfinalizes : w.Finalizes txs slot) {events : List (ObservedEvent Pubkey)}
    {database : Database Pubkey} (hpersist : w.database.persistAll events = .ok database)
    (hevents : ∀ observed ∈ events, ∃ tx ∈ w.history,
      tx.signature = observed.id.transactionSignature)
    {status : SyncStatus} (hstatus : status.observedSlot ≤ slot) :
    (⟨⟨w.history ++ txs, database⟩, slot, status⟩ : SyncWorld Pubkey).WF where
  distinct := hfinalizes.distinct
  slot_pos := by
    intro tx htx
    cases List.mem_append.mp htx with
    | inl htx => exact h.slot_pos tx htx
    | inr htx =>
      have hlt := (hfinalizes.later tx htx).1
      rw [UInt64.lt_iff_toNat_lt] at hlt ⊢
      have hzero : (0 : UInt64).toNat = 0 := rfl
      omega
  slot_le := by
    intro tx htx
    cases List.mem_append.mp htx with
    | inl htx => exact UInt64.le_trans (h.slot_le tx htx) hfinalizes.slot_le
    | inr htx => exact (hfinalizes.later tx htx).2
  observed_le := hstatus
  stored := by
    intro id hid
    rw [Database.persistAll_isSome_iff hpersist] at hid
    have hmem : ∃ tx ∈ w.history, tx.signature = id.transactionSignature := by
      rcases hid with hid | ⟨observed, hobserved, rfl⟩
      . exact h.stored id hid
      . exact hevents observed hobserved
    obtain ⟨tx, htx, hsignature⟩ := hmem
    exact ⟨tx, List.mem_append_left _ htx, hsignature⟩

theorem persisted (h : w.WF) {tx : FinalizedTransaction} (htx : tx ∈ w.history)
    {events : List (ObservedEvent Pubkey)} {database : Database Pubkey}
    (hevents : events ⊆ tx.liveEvents settings)
    (hpersist : w.database.persistAll events = .ok database)
    {status : SyncStatus} (hstatus : status.observedSlot ≤ w.finalizedSlot) :
    ({ w with database, status } : SyncWorld Pubkey).WF := by
  have hwf := h.advance h.finalizes_nil hpersist (fun observed hobserved =>
    ⟨tx, htx, (decodableEvents_signature settings (hevents hobserved)).symm⟩) hstatus
  rwa [List.append_nil] at hwf

theorem step (h : w.WF) (hstep : SyncStep settings w a w') : w'.WF := by
  cases hstep with
  | finalize hfinalizes =>
    exact h.advance hfinalizes (Database.persistAll_nil _) (by simp)
      (UInt64.le_trans h.observed_le hfinalizes.slot_le)
  | subscribe | disconnect | monitorRpcSlot => exact h.observed h.observed_le
  | restart => exact h.observed (UInt64.zero_le)
  | @notify tx _ _ _ htx hpersist =>
    exact h.persisted htx tx.notifiedEvents_subset hpersist (h.notified htx)
  | interruptedNotify _ _ htx _ hpersist =>
    exact h.persisted htx (List.take_subset _ _) hpersist (h.notified htx)
  | interruptedReconcile _ hreconcile hfinalizes =>
    cases hreconcile with
    | interruptedReconcile hdistinct hevents hpersist =>
      apply h.advance hfinalizes hpersist
      . intro observed hobserved
        exact reconcile_events hdistinct hevents (List.mem_of_mem_take hobserved)
      . exact UInt64.le_trans h.observed_le hfinalizes.slot_le
  | reconcileToFinalizedSlot _ hreconcile hfinalizes =>
    cases hreconcile with
    | reconcile hdistinct hevents hpersist =>
      dsimp only
      rw [List.append_assoc]
      apply h.advance hfinalizes hpersist
      . intro observed hobserved
        exact reconcile_events hdistinct hevents hobserved
      . rw [h.reconciledTo hfinalizes]
        exact UInt64.le_refl _

theorem run {tr : List (Transition (SyncWorld Pubkey) SyncAction)}
    (run : Run (SyncStep settings) .initial tr w) : w.WF := by
  apply run.invariant initial
  intro _ _ _ _ hstep hwf
  exact hwf.step hstep

end SyncWorld.WF

section

variable {settings : ObserverSettings Pubkey} {w w' : SyncWorld Pubkey}

theorem FinalizedTransaction.Stored.persistAll {tx : FinalizedTransaction} {db db' : Database Pubkey}
    (h : tx.Stored settings db) {events : List (ObservedEvent Pubkey)}
    (hpersist : db.persistAll events = .ok db') : tx.Stored settings db' := by
  intro observed hobserved
  rw [Database.persistAll_isSome_iff hpersist]
  exact .inl (h observed hobserved)

/--
Whatever is finalized next is in a later slot than the observed one.
-/
theorem SyncWorld.Truthful.advance (htruthful : w.Truthful settings) (hwf : w.WF)
    {txs : List FinalizedTransaction} {slot : UInt64} (hfinalizes : w.Finalizes txs slot)
    {events : List (ObservedEvent Pubkey)} {database : Database Pubkey}
    (hpersist : w.database.persistAll events = .ok database) {status : SyncStatus}
    (hstatus : status.observedSlot = w.status.observedSlot) :
    (⟨⟨w.history ++ txs, database⟩, slot, status⟩ : SyncWorld Pubkey).Truthful settings := by
  intro tx htx herr hslot
  rw [hstatus] at hslot
  cases List.mem_append.mp htx with
  | inl htx => exact (htruthful tx htx herr hslot).persistAll hpersist
  | inr htx =>
    have hle := UInt64.le_trans hslot hwf.observed_le
    exact absurd (hfinalizes.later tx htx).1 (UInt64.not_lt.mpr hle)

/--
A transaction that is stored by persisting events of `tx` is `tx`, or it was stored before.
-/
theorem eq_of_stored (hwf : w.WF) {tx tx' : FinalizedTransaction} (htx : tx ∈ w.history)
    (hmissing : w.Missing settings tx') {events : List (ObservedEvent Pubkey)}
    {database : Database Pubkey} (hevents : events ⊆ tx.liveEvents settings)
    (hpersist : w.database.persistAll events = .ok database)
    (hstored : tx'.Stored settings database) : tx' = tx := by
  obtain ⟨htx', -, hmissing⟩ := hmissing
  unfold FinalizedTransaction.Stored at hmissing
  push Not at hmissing
  obtain ⟨observed, hobserved, hnone⟩ := hmissing
  have hsome := hstored observed hobserved
  rw [Database.persistAll_isSome_iff hpersist] at hsome
  obtain ⟨live, hlive, hid⟩ := hsome.resolve_left hnone
  apply hwf.distinct.eq_of_signature_eq htx' htx
  rw [← decodableEvents_signature settings (hevents hlive), hid,
    decodableEvents_signature settings hobserved]

/--
After events of the notified transaction are persisted, whatever was missing up to its slot still is
missing, unless it is this transaction.
-/
theorem truthful_persisted_iff (hwf : w.WF) (htruthful : w.Truthful settings)
    {tx : FinalizedTransaction} (htx : tx ∈ w.history) {events : List (ObservedEvent Pubkey)}
    {database : Database Pubkey} (hevents : events ⊆ tx.liveEvents settings)
    (hpersist : w.database.persistAll events = .ok database) :
    (∀ tx' ∈ w.history, tx'.err = false → tx'.slot ≤ max w.status.observedSlot tx.slot →
      tx'.Stored settings database) ↔
    ∀ tx', w.Missing settings tx' → tx'.slot ≤ tx.slot → tx' = tx ∧ tx.Stored settings database := by
  constructor
  . intro h tx' hmissing hslot
    have hstored := h tx' hmissing.1 hmissing.2.1 (le_max_slot_iff.mpr (.inr hslot))
    obtain rfl := eq_of_stored hwf htx hmissing hevents hpersist hstored
    exact ⟨rfl, hstored⟩
  . intro h tx' htx' herr hslot
    by_cases hstored : tx'.Stored settings w.database
    . exact hstored.persistAll hpersist
    . rw [le_max_slot_iff] at hslot
      have hle := hslot.resolve_left fun hle => hstored (htruthful tx' htx' herr hle)
      obtain ⟨rfl, hstored⟩ := h tx' ⟨htx', herr, hstored⟩ hle
      exact hstored

theorem stored_take_iff {tx : FinalizedTransaction} {n : Nat} {db database : Database Pubkey}
    (hpersist : db.persistAll ((tx.liveEvents settings).take n) = .ok database) :
    tx.Stored settings database ↔
      ∀ observed ∈ tx.events settings, (db.protocolEvents observed.id).isSome ∨
        ∃ persisted ∈ (tx.events settings).take n, persisted.id = observed.id := by
  unfold FinalizedTransaction.Stored
  apply forall₂_congr
  intro observed _
  rw [Database.persistAll_isSome_iff hpersist, tx.exists_liveEvents_take_iff]

theorem stored_liveEvents {tx : FinalizedTransaction} {db database : Database Pubkey}
    (hpersist : db.persistAll (tx.liveEvents settings) = .ok database) :
    tx.Stored settings database := by
  rw [← List.take_length (l := tx.liveEvents settings)] at hpersist
  rw [stored_take_iff hpersist]
  intro observed hobserved
  right
  have hlen : (tx.liveEvents settings).length = (tx.events settings).length := by
    rw [← List.length_map ObservedEvent.id, tx.liveEvents_ids, List.length_map]
  rw [hlen, List.take_length]
  exact ⟨observed, hobserved, rfl⟩

theorem truthful_notify_iff (hwf : w.WF) (htruthful : w.Truthful settings)
    {tx : FinalizedTransaction} (hstep : SyncStep settings w (.notify tx) w') :
    w'.Truthful settings ↔ SyncAction.Covered settings w (.notify tx) := by
  cases hstep with
  | notify _ _ htx hpersist =>
    refine (truthful_persisted_iff hwf htruthful htx tx.notifiedEvents_subset hpersist).trans ?_
    apply forall₃_congr
    intro tx' hmissing _
    constructor
    . intro h
      exact h.1
    . rintro rfl
      rw [hmissing.2.1] at hpersist
      exact ⟨rfl, stored_liveEvents hpersist⟩

theorem truthful_interruptedNotify_iff (hwf : w.WF) (htruthful : w.Truthful settings)
    {tx : FinalizedTransaction} {n : Nat}
    (hstep : SyncStep settings w (.interruptedNotify tx n) w') :
    w'.Truthful settings ↔ SyncAction.Covered settings w (.interruptedNotify tx n) := by
  cases hstep with
  | interruptedNotify _ _ htx herr hpersist =>
    refine (truthful_persisted_iff hwf htruthful htx (List.take_subset _ _) hpersist).trans ?_
    rw [stored_take_iff hpersist]
    rfl

theorem stored_later_iff (hwf : w.WF) {txs : List FinalizedTransaction} {slot : UInt64}
    (hfinalizes : w.Finalizes txs slot) {events : List (ObservedEvent Pubkey)}
    {database : Database Pubkey} (hpersist : w.database.persistAll events = .ok database)
    (hevents : ∀ observed ∈ events, ∃ tx ∈ w.history,
      tx.signature = observed.id.transactionSignature)
    {tx : FinalizedTransaction} (htx : tx ∈ txs) :
    tx.Stored settings database ↔ tx.events settings = [] := by
  constructor
  . intro hstored
    rw [List.eq_nil_iff_forall_not_mem]
    intro observed hobserved
    have hsome := hstored observed hobserved
    have hwf' := hwf.advance hwf.finalizes_nil hpersist hevents hwf.observed_le
    rw [List.append_nil] at hwf'
    -- only transactions that were finalized before are stored
    obtain ⟨tx', htx', hsignature⟩ := hwf'.stored _ hsome
    rw [decodableEvents_signature settings hobserved] at hsignature
    exact (List.pairwise_append.mp hfinalizes.distinct).2.2 tx' htx' tx htx hsignature
  . intro hnil observed hobserved
    rw [hnil] at hobserved
    exact absurd hobserved List.not_mem_nil

/--
What is finalized during a call is not read by it, but in the slots that it reports as observed.
-/
theorem truthful_reconcile_iff (hwf : w.WF) {batches : List (List FinalizedTransaction)}
    {later : List FinalizedTransaction} {slot : UInt64}
    (hstep : SyncStep settings w (.reconcileToFinalizedSlot batches later slot) w') :
    w'.Truthful settings ↔
      SyncAction.Covered settings w (.reconcileToFinalizedSlot batches later slot) := by
  have hwf' := hwf.step hstep
  cases hstep with
  | reconcileToFinalizedSlot _ hreconcile hfinalizes =>
    have hrepair := allStored_iff_repairable hreconcile
    cases hreconcile with
    | @reconcile _ _ database hdistinct hevents hpersist =>
      have hlater {tx : FinalizedTransaction} (htx : tx ∈ batches.flatten ++ later) :
          tx.Stored settings database ↔ tx.events settings = [] := by
        apply stored_later_iff hwf hfinalizes hpersist _ htx
        intro observed hobserved
        exact SyncWorld.WF.reconcile_events hdistinct hevents hobserved
      have hslot : ∀ tx ∈ w.history ++ (batches.flatten ++ later),
          tx.slot ≤ (w.status.reconciledTo slot).observedSlot := by
        rw [hwf.reconciledTo hfinalizes, ← List.append_assoc]
        exact hwf'.slot_le
      unfold SyncWorld.Truthful SyncAction.Covered
      rw [← hrepair]
      dsimp only
      rw [List.append_assoc]
      constructor
      . intro h
        have hstored {tx : FinalizedTransaction}
            (htx : tx ∈ w.history ++ (batches.flatten ++ later)) (herr : tx.err = false) :=
          h tx htx herr (hslot tx htx)
        constructor
        . intro tx htx herr
          exact hstored (List.mem_append_left _ htx) herr
        . intro tx htx herr
          exact (hlater htx).mp (hstored (List.mem_append_right _ htx) herr)
      . rintro ⟨hold, hnone⟩ tx htx herr _
        cases List.mem_append.mp htx with
        | inl htx => exact hold tx htx herr
        | inr htx => exact (hlater htx).mpr (hnone tx htx herr)

theorem SyncWorld.Truthful.step {a : SyncAction} (hwf : w.WF) (htruthful : w.Truthful settings)
    (hstep : SyncStep settings w a w') (hcovered : a.Covered settings w) :
    w'.Truthful settings := by
  have hwf' := hwf.step hstep
  cases a with
  | notify tx => exact (truthful_notify_iff hwf htruthful hstep).mpr hcovered
  | interruptedNotify tx n => exact (truthful_interruptedNotify_iff hwf htruthful hstep).mpr hcovered
  | reconcileToFinalizedSlot batches later slot =>
    exact (truthful_reconcile_iff hwf hstep).mpr hcovered
  | finalize txs slot =>
    cases hstep with
    | finalize hfinalizes =>
      exact htruthful.advance hwf hfinalizes (Database.persistAll_nil _) rfl
  | interruptedReconcile batches slot =>
    cases hstep with
    | interruptedReconcile _ hreconcile hfinalizes =>
      cases hreconcile with
      | interruptedReconcile _ _ hpersist =>
        exact htruthful.advance hwf hfinalizes hpersist rfl
  | restart =>
    cases hstep
    intro tx htx _ hslot
    -- nothing is in the first slot
    exact absurd hslot (UInt64.not_le.mpr (hwf.slot_pos tx htx))
  | subscribe | disconnect | monitorRpcSlot =>
    cases hstep
    exact htruthful

theorem SyncStep.covered {a : SyncAction} (hwf : w.WF) (hstep : SyncStep settings w a w')
    (htruthful : w.status.reconciled = true → w.Truthful settings)
    (htruthful' : w'.status.reconciled = true → w'.Truthful settings) : a.Covered settings w := by
  cases a with
  | notify tx =>
    obtain ⟨h, h'⟩ : w.status.reconciled = true ∧ w'.status.reconciled = true := by
      cases hstep with
      | notify _ hreconciled _ _ => exact ⟨hreconciled, hreconciled⟩
    exact (truthful_notify_iff hwf (htruthful h) hstep).mp (htruthful' h')
  | interruptedNotify tx n =>
    obtain ⟨h, h'⟩ : w.status.reconciled = true ∧ w'.status.reconciled = true := by
      cases hstep with
      | interruptedNotify _ hreconciled _ _ _ => exact ⟨hreconciled, hreconciled⟩
    exact (truthful_interruptedNotify_iff hwf (htruthful h) hstep).mp (htruthful' h')
  | reconcileToFinalizedSlot batches later slot =>
    have h' : w'.status.reconciled = true := by
      cases hstep
      rfl
    exact (truthful_reconcile_iff hwf hstep).mp (htruthful' h')
  | _ => trivial

omit [DecidableEq Pubkey] in
theorem Completed.append {tr : List (Transition (SyncWorld Pubkey) SyncAction)} (h : Completed tr)
    (tr' : List (Transition (SyncWorld Pubkey) SyncAction)) : Completed (tr ++ tr') := by
  obtain ⟨x, hx, hcall⟩ := h
  exact ⟨x, List.mem_append_left _ hx, hcall⟩

theorem SyncStep.reconciled {a : SyncAction} (hstep : SyncStep settings w a w')
    (h : w'.status.reconciled = true) :
    w.status.reconciled = true ∨
      ∃ batches later slot, a = .reconcileToFinalizedSlot batches later slot := by
  cases hstep with
  | finalize | disconnect | monitorRpcSlot | notify | interruptedNotify | interruptedReconcile =>
    exact .inl h
  | subscribe | restart => exact absurd h Bool.false_ne_true
  | reconcileToFinalizedSlot => exact .inr ⟨_, _, _, rfl⟩

theorem completed_of_reconciled {tr : List (Transition (SyncWorld Pubkey) SyncAction)}
    (run : Run (SyncStep settings) .initial tr w) (h : w.status.reconciled = true) :
    Completed tr := by
  induction run with
  | nil => exact absurd h Bool.false_ne_true
  | snoc _ hstep ih =>
    rcases hstep.reconciled h with hpre | hreconcile
    . exact (ih hpre).append _
    . exact ⟨_, List.mem_append_right _ (List.mem_singleton_self _), hreconcile⟩

theorem truthful_of_covered {tr : List (Transition (SyncWorld Pubkey) SyncAction)}
    (run : Run (SyncStep settings) .initial tr w)
    (hcovered : ∀ x ∈ tr, x.action.Covered settings x.pre) : w.Truthful settings := by
  have h : w.WF ∧ w.Truthful settings := by
    apply run.invariant
    . exact ⟨.initial, by simp [SyncWorld.Truthful, SyncWorld.initial]⟩
    . rintro _ _ _ hmem hstep ⟨hwf, htruthful⟩
      exact ⟨hwf.step hstep, htruthful.step hwf hstep (hcovered _ hmem)⟩
  exact h.2

end

theorem observed_slot_truthful_iff {settings : ObserverSettings Pubkey}
    {tr : List (Transition (SyncWorld Pubkey) SyncAction)} {w : SyncWorld Pubkey}
    (run : Run (SyncStep settings) .initial tr w) :
    (∀ tr' w', tr' <+: tr → Run (SyncStep settings) .initial tr' w' → Completed tr' →
      w'.Truthful settings) ↔
    ∀ x ∈ tr, x.action.Covered settings x.pre := by
  constructor
  . intro h x hx
    obtain ⟨tr₁, tr₂, rfl⟩ := List.append_of_mem hx
    obtain ⟨hrun, hstep, -⟩ := run.of_cons_append
    have hstart : tr₁ ++ [x] <+: tr₁ ++ x :: tr₂ :=
      ⟨tr₂, by rw [List.append_assoc, List.singleton_append]⟩
    apply hstep.covered (.run hrun)
    . intro hreconciled
      exact h _ _ (List.prefix_append _ _) hrun (completed_of_reconciled hrun hreconciled)
    . intro hreconciled
      have hrun' := hrun.snoc hstep
      exact h _ _ hstart hrun' (completed_of_reconciled hrun' hreconciled)
  . intro hcovered tr' w' hstart hrun _
    apply truthful_of_covered hrun
    intro x hx
    exact hcovered x (hstart.subset hx)

open Scenario in
theorem observed_slot_untruthful :
    ¬ ∀ (settings : ObserverSettings Key) (tr : List (Transition (SyncWorld Key) SyncAction))
      (w : SyncWorld Key), Run (SyncStep settings) .initial tr w → Completed tr →
      w.Truthful settings := by
  intro h
  -- the transaction is finalized after the signatures are listed and before the slot is asked for
  let tx := transaction "create" 2 0 vaultCreatedLine
  have hsubscribe : SyncStep settings .initial .subscribe
      ⟨World.initial, 0, SyncStatus.default.subscribed⟩ := .subscribe rfl
  have hevents : settings.reconcileEvents none [] [] = some [] := rfl
  have hreconcile : WorldStep settings World.initial (.reconcile []) World.initial :=
    .reconcile .nil hevents rfl
  have hfinalizes : (⟨World.initial, 0, SyncStatus.default.subscribed⟩ : SyncWorld Key).Finalizes
      ([].flatten ++ [tx]) 2 := by
    constructor <;> decide
  have hcall := SyncStep.reconcileToFinalizedSlot rfl hreconcile hfinalizes
  have htruthful := h settings _ _ ((Run.nil.snoc hsubscribe).snoc hcall)
    ⟨_, List.mem_append_right _ (List.mem_singleton_self _), _, _, _, rfl⟩
  have hstored := htruthful tx (List.mem_singleton_self _) rfl (by decide)
  obtain ⟨observed, hobserved⟩ : ∃ observed, observed ∈ tx.events settings := by
    apply List.exists_mem_of_ne_nil
    rw [← List.isEmpty_eq_false_iff]
    decide +kernel
  exact absurd (hstored observed hobserved) Bool.false_ne_true

open Scenario in
theorem observed_slot_truthful_paused :
    ∃ tr w, Run (SyncStep settings) .initial tr w ∧ Completed tr ∧
      w.history = pausedTransactions ∧ w.status.observedSlot = 3 ∧ w.Truthful settings := by
  obtain ⟨db, hreconcile⟩ := reconcile_paused
  have hfinalize : SyncStep settings .initial (.finalize pausedTransactions 3)
      ⟨⟨pausedTransactions, .empty⟩, 3, .default⟩ := by
    apply SyncStep.finalize
    constructor <;> decide
  have hsubscribe : SyncStep settings ⟨⟨pausedTransactions, .empty⟩, 3, .default⟩ .subscribe
      ⟨⟨pausedTransactions, .empty⟩, 3, SyncStatus.default.subscribed⟩ := .subscribe rfl
  have hfinalizes : (⟨⟨pausedTransactions, .empty⟩, 3, SyncStatus.default.subscribed⟩
      : SyncWorld Key).Finalizes ([].flatten ++ []) 3 := by
    constructor <;> decide
  have hcall := SyncStep.reconcileToFinalizedSlot rfl hreconcile hfinalizes
  have run := ((Run.nil.snoc hfinalize).snoc hsubscribe).snoc hcall
  have hcompleted := completed_of_reconciled run rfl
  refine ⟨_, _, run, hcompleted, by simp, rfl, ?_⟩
  apply (observed_slot_truthful_iff run).mpr _ _ _ (List.prefix_refl _) run hcompleted
  intro x hx
  simp only [List.nil_append, List.cons_append, List.mem_cons, List.not_mem_nil, or_false] at hx
  rcases hx with rfl | rfl | rfl
  . trivial
  . trivial
  . exact ⟨repairable_paused, by simp⟩

end IronVault.Observer
