import IronVault.Observer.Freshness

/-!
This module contains what a ready observer has done. The service is ready only on a connection on
which a call of `reconcile_to_finalized_slot` has returned, and whatever was read from the chain since
the database was empty is stored.
-/

namespace IronVault.Observer

variable {Pubkey : Type} [DecidableEq Pubkey]

abbrev SyncTransition (Pubkey : Type) : Type :=
  Transition (SyncWorld Pubkey) SyncAction

namespace SyncAction

def keepsConnection : SyncAction → Bool
  | .subscribe | .disconnect | .restart | .interruptedNotify .. | .interruptedReconcile .. => false
  | .finalize .. | .monitorRpcSlot | .notify _ | .reconcileToFinalizedSlot .. => true

def ReconcilesTo (a : SyncAction) (slot : UInt64) : Prop :=
  ∃ batches later, a = .reconcileToFinalizedSlot batches later slot

end SyncAction

/--
The transactions whose logs are processed completely in a transition.
-/
def ReadIn (t : SyncTransition Pubkey) (tx : FinalizedTransaction) : Prop :=
  match t.action with
  | .notify tx' => tx = tx'
  | .reconcileToFinalizedSlot .. =>
    tx ∈ reconciled t.pre.database.checkpointSignature t.pre.history
  | _ => False

/--
The transitions since the subscription of the connection that is in use.
-/
structure OnConnection (tr since : List (SyncTransition Pubkey)) : Prop where
  subscribed : ∃ before sub, tr = before ++ sub :: since ∧ sub.action = .subscribe
  kept : ∀ t ∈ since, t.action.keepsConnection

omit [DecidableEq Pubkey] in
theorem OnConnection.snoc {tr since : List (SyncTransition Pubkey)} (h : OnConnection tr since)
    {t : SyncTransition Pubkey} (ht : t.action.keepsConnection) :
    OnConnection (tr ++ [t]) (since ++ [t]) where
  subscribed := by
    obtain ⟨before, sub, rfl, hsub⟩ := h.subscribed
    exact ⟨before, sub, by simp, hsub⟩
  kept := by
    intro t' ht'
    rw [List.mem_append, List.mem_singleton] at ht'
    rcases ht' with ht' | rfl
    . exact h.kept t' ht'
    . exact ht

section Step

variable {settings : ObserverSettings Pubkey} {w w' : SyncWorld Pubkey} {a : SyncAction}

theorem SyncStep.connected (h : SyncStep settings w a w') (hconnected : w'.status.connected = true) :
    a = .subscribe ∧ w'.status.reconciled = false ∨
      a.keepsConnection ∧ w.status.connected = true := by
  cases h with
  | subscribe => exact .inl ⟨rfl, rfl⟩
  | restart | disconnect | interruptedNotify | interruptedReconcile =>
    exact absurd hconnected Bool.false_ne_true
  | finalize | monitorRpcSlot | notify | reconcileToFinalizedSlot => exact .inr ⟨rfl, hconnected⟩

theorem SyncStep.persistAll (h : SyncStep settings w a w') :
    ∃ events, w.database.persistAll events = .ok w'.database := by
  cases h with
  | finalize | subscribe | disconnect | restart | monitorRpcSlot =>
    exact ⟨[], Database.persistAll_nil _⟩
  | notify _ _ _ hpersist => exact ⟨_, hpersist⟩
  | interruptedNotify _ _ _ _ hpersist => exact ⟨_, hpersist⟩
  | interruptedReconcile _ hreconcile =>
    cases hreconcile with
    | interruptedReconcile _ _ hpersist => exact ⟨_, hpersist⟩
  | reconcileToFinalizedSlot _ hreconcile =>
    cases hreconcile with
    | reconcile _ _ hpersist => exact ⟨_, hpersist⟩

theorem SyncStep.read_stored (h : SyncStep settings w a w') {tx : FinalizedTransaction}
    (hread : ReadIn ⟨w, a, w'⟩ tx) (herr : tx.err = false) : tx.Stored settings w'.database := by
  cases h with
  | notify _ _ _ hpersist =>
    obtain rfl : tx = _ := hread
    rw [herr] at hpersist
    exact stored_liveEvents hpersist
  | reconcileToFinalizedSlot _ hreconcile =>
    cases hreconcile with
    | reconcile hdistinct hevents hpersist =>
      intro observed hobserved
      rw [Database.persistAll_isSome_iff hpersist]
      right
      refine ⟨observed, ?_, rfl⟩
      rw [mem_reconcileEvents hdistinct hevents]
      exact ⟨tx, hread, herr, hobserved⟩
  | finalize | subscribe | disconnect | restart | monitorRpcSlot | interruptedNotify
  | interruptedReconcile => exact hread.elim

theorem SyncStep.observed_mono (h : SyncStep settings w a w') (ha : a ≠ .restart) :
    w.status.observedSlot ≤ w'.status.observedSlot := by
  cases h with
  | restart => exact absurd rfl ha
  | notify | interruptedNotify | reconcileToFinalizedSlot =>
    exact le_max_slot_iff.mpr (.inl (UInt64.le_refl _))
  | finalize | subscribe | disconnect | monitorRpcSlot | interruptedReconcile =>
    exact UInt64.le_refl _

theorem SyncStep.ready (h : SyncStep settings w a w') (hwf : w.WF) {slot : UInt64}
    (ha : a.ReconcilesTo slot) (maxReadySlotLag : UInt64) :
    w'.status.readyz true maxReadySlotLag = true := by
  obtain ⟨batches, later, rfl⟩ := ha
  cases h with
  | reconcileToFinalizedSlot hconnected _ hfinalizes =>
    have hobserved := hwf.reconciledTo hfinalizes
    have hlag : (w.status.reconciledTo slot).lag = 0 := by
      unfold SyncStatus.lag
      rw [hobserved]
      simp [SyncStatus.reconciledTo]
    unfold SyncStatus.readyz
    rw [hlag]
    simp [SyncStatus.reconciledTo, hconnected]

end Step

section Run

variable {settings : ObserverSettings Pubkey} {w : SyncWorld Pubkey}
  {tr : List (SyncTransition Pubkey)}

theorem stored_of_read (run : Run (SyncStep settings) .initial tr w) {t : SyncTransition Pubkey}
    (ht : t ∈ tr) {tx : FinalizedTransaction} (hread : ReadIn t tx) (herr : tx.err = false) :
    tx.Stored settings w.database := by
  induction run with
  | nil => cases ht
  | @snoc tr q r a run hstep ih =>
    rw [List.mem_append, List.mem_singleton] at ht
    rcases ht with ht | rfl
    . obtain ⟨events, hpersist⟩ := hstep.persistAll
      exact (ih ht).persistAll hpersist
    . exact hstep.read_stored hread herr

/--
On a connection the status is reconciled only by a call that returned on it, and the observed slot
is at least the slot of this call.
-/
theorem onConnection_of_connected (run : Run (SyncStep settings) .initial tr w)
    (hconnected : w.status.connected = true) :
    ∃ since, OnConnection tr since ∧ (w.status.reconciled = true →
      ∃ t ∈ since, ∃ slot, t.action.ReconcilesTo slot ∧ slot ≤ w.status.observedSlot) := by
  induction run with
  | nil => exact absurd hconnected Bool.false_ne_true
  | @snoc tr q r a run hstep ih =>
    rcases hstep.connected hconnected with ⟨rfl, hreconciled⟩ | ⟨hkeeps, hpre⟩
    . refine ⟨[], ⟨⟨tr, _, rfl, rfl⟩, by simp⟩, ?_⟩
      rw [hreconciled]
      intro h
      cases h
    . obtain ⟨since, hon, hsince⟩ := ih hpre
      refine ⟨_, hon.snoc hkeeps, ?_⟩
      intro hreconciled
      rcases hstep.reconciled hreconciled with hpre | ⟨batches, later, slot, rfl⟩
      . obtain ⟨t, ht, slot, hslot, hle⟩ := hsince hpre
        have hmono : q.status.observedSlot ≤ r.status.observedSlot := by
          apply hstep.observed_mono
          rintro rfl
          cases hkeeps
        exact ⟨t, List.mem_append_left _ ht, slot, hslot, UInt64.le_trans hle hmono⟩
      . refine ⟨_, List.mem_append_right _ (List.mem_singleton_self _), slot,
          ⟨batches, later, rfl⟩, ?_⟩
        cases hstep
        exact le_max_slot_iff.mpr (.inr (UInt64.le_refl _))

end Run

theorem ready_after_reconcile {settings : ObserverSettings Pubkey}
    {tr : List (SyncTransition Pubkey)} {w : SyncWorld Pubkey}
    (run : Run (SyncStep settings) .initial tr w) (maxReadySlotLag : UInt64) :
    (∀ databaseReady, w.status.readyz databaseReady maxReadySlotLag = true →
      databaseReady = true ∧ ∃ since, OnConnection tr since ∧
        ∃ t ∈ since, ∃ slot, t.action.ReconcilesTo slot ∧ slot ≤ w.status.observedSlot) ∧
      (∀ t ∈ tr, ∀ slot, t.action.ReconcilesTo slot →
        t.post.status.readyz true maxReadySlotLag = true) ∧
      ∀ t ∈ tr, ∀ tx, ReadIn t tx → tx.err = false → tx.Stored settings w.database := by
  refine ⟨?_, ?_, ?_⟩
  . intro databaseReady hready
    unfold SyncStatus.readyz at hready
    simp only [Bool.and_eq_true] at hready
    obtain ⟨⟨⟨hdatabase, hconnected⟩, hreconciled⟩, -⟩ := hready
    obtain ⟨since, hon, hsince⟩ := onConnection_of_connected run hconnected
    exact ⟨hdatabase, since, hon, hsince hreconciled⟩
  . intro t ht slot hslot
    obtain ⟨_, hpre, hstep⟩ := run.of_mem ht
    exact hstep.ready (.run hpre) hslot maxReadySlotLag
  . intro t ht tx hread herr
    exact stored_of_read run ht hread herr

open Scenario in
theorem ready_after_reconcile_paused :
    ∃ tr w, Run (SyncStep settings) .initial tr w ∧ w.status.readyz true 0 = true ∧
      (∃ since, OnConnection tr since ∧
        ∃ t ∈ since, ∃ slot, t.action.ReconcilesTo slot ∧ slot ≤ w.status.observedSlot) ∧
      ∀ tx ∈ pausedTransactions, tx.err = false → tx.Stored settings w.database := by
  obtain ⟨db, hreconcile⟩ := reconcile_paused
  have hfinalize : SyncStep settings .initial (.finalize pausedTransactions 3)
      ⟨⟨pausedTransactions, .empty⟩, 3, .default⟩ := by
    apply SyncStep.finalize
    constructor <;> decide
  have hsubscribe : SyncStep settings ⟨⟨pausedTransactions, .empty⟩, 3, .default⟩ .subscribe
      ⟨⟨pausedTransactions, .empty⟩, 3, SyncStatus.default.subscribed⟩ := .subscribe rfl
  have hfinalizes : (⟨⟨pausedTransactions, .empty⟩, 3, SyncStatus.default.subscribed⟩
      : SyncWorld Key).Finalizes ([].flatten ++ []) 3 := by
    constructor <;> decide
  have hcall := SyncStep.reconcileToFinalizedSlot rfl hreconcile hfinalizes
  have run := ((Run.nil.snoc hfinalize).snoc hsubscribe).snoc hcall
  obtain ⟨hready, hposts, hstored⟩ := ready_after_reconcile run 0
  have hlast := hposts _ (List.mem_append_right _ (List.mem_singleton_self _)) 3 ⟨[], [], rfl⟩
  refine ⟨_, _, run, hlast, (hready true hlast).2, ?_⟩
  intro tx htx herr
  apply hstored _ (List.mem_append_right _ (List.mem_singleton_self _)) tx _ herr
  have hlen : pausedTransactions.length < signaturesLimit := by decide
  show tx ∈ reconciled _ pausedTransactions
  rw [reconciled_of_stop (.inr hlen), List.take_of_length_le, List.mem_reverse]
  . exact htx
  . rw [List.length_reverse]
    exact hlen.le

end IronVault.Observer
