import IronVault.Program.Lemmas.Step
import IronVault.Observer.Lemmas.Database

/-!
This module contains the two sides of a projection: its rows are registers that the first delivery
of every event writes, and the accounts on the chain are what the emitted events replay to.
-/

namespace IronVault.Observer

variable {Pubkey : Type} [DecidableEq Pubkey] [Solana Pubkey]

def firstDeliveries : List (ObservedEvent Pubkey) → List (ObservedEvent Pubkey)
  | [] => []
  | observed :: later => observed :: (firstDeliveries later).filter (·.id ≠ observed.id)

omit [DecidableEq Pubkey] [Solana Pubkey] in
theorem firstDeliveries_append (deliveries : List (ObservedEvent Pubkey))
    (observed : ObservedEvent Pubkey) :
    firstDeliveries (deliveries ++ [observed])
      = firstDeliveries deliveries
        ++ if ∃ d ∈ deliveries, d.id = observed.id then [] else [observed] := by
  induction deliveries with
  | nil => simp [firstDeliveries]
  | cons d deliveries ih =>
    rw [List.cons_append, firstDeliveries, ih, firstDeliveries, List.filter_append, List.cons_append]
    congr 2
    by_cases heq : d.id = observed.id
    . simp only [List.mem_cons, exists_eq_or_imp, heq, true_or, if_true]
      split <;> simp
    . simp only [List.mem_cons, exists_eq_or_imp, heq, false_or]
      split <;> simp [Ne.symm heq]

omit [DecidableEq Pubkey] [Solana Pubkey] in
theorem mem_of_mem_firstDeliveries {deliveries : List (ObservedEvent Pubkey)}
    {observed : ObservedEvent Pubkey} (h : observed ∈ firstDeliveries deliveries) :
    observed ∈ deliveries := by
  induction deliveries with
  | nil => simp [firstDeliveries] at h
  | cons d deliveries ih =>
    unfold firstDeliveries at h
    cases List.mem_cons.mp h with
    | inl heq => simp [heq]
    | inr hmem => exact List.mem_cons_of_mem _ (ih (List.mem_of_mem_filter hmem))

omit [DecidableEq Pubkey] [Solana Pubkey] in
theorem exists_firstDelivery {deliveries : List (ObservedEvent Pubkey)}
    {observed : ObservedEvent Pubkey} (h : observed ∈ deliveries) :
    ∃ first ∈ firstDeliveries deliveries, first.id = observed.id := by
  induction deliveries with
  | nil => simp at h
  | cons d deliveries ih =>
    unfold firstDeliveries
    by_cases heq : d.id = observed.id
    . exact ⟨d, by simp, heq⟩
    . have hne : observed ≠ d := fun hobserved => heq (by rw [hobserved])
      obtain ⟨first, hfirst, hid⟩ := ih (List.mem_of_ne_of_mem hne h)
      refine ⟨first, List.mem_cons_of_mem _ (List.mem_filter.mpr ⟨hfirst, ?_⟩), hid⟩
      simpa [hid] using Ne.symm heq

omit [DecidableEq Pubkey] [Solana Pubkey] in
theorem firstDeliveries_nodup (deliveries : List (ObservedEvent Pubkey)) :
    ((firstDeliveries deliveries).map ObservedEvent.id).Nodup := by
  induction deliveries with
  | nil => simp [firstDeliveries]
  | cons d deliveries ih =>
    unfold firstDeliveries
    rw [List.map_cons, List.nodup_cons]
    constructor
    . simp
    . exact ih.sublist (List.filter_sublist.map _)

omit [DecidableEq Pubkey] [Solana Pubkey] in
theorem firstDeliveries_of_nodup {deliveries : List (ObservedEvent Pubkey)}
    (h : (deliveries.map ObservedEvent.id).Nodup) : firstDeliveries deliveries = deliveries := by
  induction deliveries with
  | nil => rfl
  | cons d deliveries ih =>
    rw [List.map_cons, List.nodup_cons] at h
    unfold firstDeliveries
    rw [ih h.2, List.filter_eq_self.mpr]
    intro observed hobserved
    have hne : observed.id ≠ d.id := by
      intro heq
      apply h.1
      rw [← heq]
      exact List.mem_map_of_mem hobserved
    simpa using hne

section Tracks

open Register

variable {Columns View : Type}

def opAt (key : Pubkey) (x : Option (Pubkey × Op Columns)) : Option (Op Columns) :=
  x.bind fun (k, op) => if k = key then some op else none

/--
An operation turns what a row shows before into what it shows after, and it is a creation exactly
when nothing was there before.
-/
def Tracks (view : Columns → View) (before after : Option View) : Option (Op Columns) → Prop
  | none => after = before
  | some op => (op.isCreate = true ↔ before = none) ∧
    ∀ value, value.map view = before → (op.apply value).map view = after

omit [Solana Pubkey] in
theorem Tracks.create {Account : Type} {view : Columns → View} {f : Account → View}
    {table : Pubkey → Option Account} {k : Pubkey} {x : Account} {columns : Columns}
    (hfresh : table k = none) (hview : view columns = f x) (key : Pubkey) :
    Tracks view ((table key).map f) ((Function.update table k (some x) key).map f)
      (opAt key (some (k, .create columns))) := by
  unfold opAt
  dsimp only [Option.bind_some]
  split
  . next heq =>
    rw [← heq, hfresh, Function.update_self]
    refine ⟨by simp, ?_⟩
    intro value hvalue
    rw [Option.map_none, Option.map_eq_none_iff] at hvalue
    simp [hvalue, Op.apply, hview]
  . next hne =>
    rw [Function.update_of_ne (Ne.symm hne)]
    rfl

omit [Solana Pubkey] in
theorem Tracks.update {Account : Type} {view : Columns → View} {f : Account → View}
    {table : Pubkey → Option Account} {k : Pubkey} {old x : Account} {g : Columns → Columns}
    (hold : table k = some old) (hview : ∀ columns, view columns = f old → view (g columns) = f x)
    (key : Pubkey) :
    Tracks view ((table key).map f) ((Function.update table k (some x) key).map f)
      (opAt key (some (k, .update g))) := by
  unfold opAt
  dsimp only [Option.bind_some]
  split
  . next heq =>
    rw [← heq, hold, Function.update_self]
    refine ⟨by simp, ?_⟩
    intro value hvalue
    rw [Option.map_some, Option.map_eq_some_iff] at hvalue
    obtain ⟨columns, rfl, hcolumns⟩ := hvalue
    simp [Op.apply, hview columns hcolumns]
  . next hne =>
    rw [Function.update_of_ne (Ne.symm hne)]
    rfl

variable {s s' : State Pubkey} {a : Action Pubkey} {event : Option (IronVaultEvent Pubkey)}

theorem Effect.tracks_escrow (h : Effect s a s' event) (key : Pubkey) :
    Tracks EscrowColumns.status ((s.escrow key).map Escrow.status)
      ((s'.escrow key).map Escrow.status) (opAt key (event.bind escrowOp)) := by
  cases h with
  | createEscrow _ h =>
    rw [h.event_eq, h.post_eq]
    apply Tracks.create (State.vacant_of_unallocated h.fresh).escrow
    rfl
  | releaseEscrow h =>
    rw [h.event_eq, h.settled.post_eq]
    apply Tracks.update h.settled.escrow_eq
    intro _ _
    rfl
  | refundEscrow h =>
    rw [h.event_eq, h.settled.post_eq]
    apply Tracks.update h.settled.escrow_eq
    intro _ _
    rfl
  | dispatch => rfl
  | thirdParty => rfl
  | createVault _ h =>
    rw [h.event_eq, h.post_eq]
    rfl
  | deposit _ h =>
    rw [h.event_eq, h.post_eq]
    rfl
  | _ h =>
    rw [h.event_eq, h.post_eq]
    rfl

theorem Effect.tracks_vault (h : Effect s a s' event) (key : Pubkey) :
    Tracks (fun columns => (columns.authority, columns.paused))
      ((s.vault key).map (fun vault => (vault.authority, vault.paused)))
      ((s'.vault key).map (fun vault => (vault.authority, vault.paused)))
      (opAt key (event.bind vaultOp)) := by
  cases h with
  | createVault _ h =>
    rw [h.event_eq, h.post_eq]
    apply Tracks.create (State.vacant_of_unallocated h.fresh).vault
    rfl
  | setVaultAuthority h =>
    rw [h.event_eq, h.post_eq]
    apply Tracks.update h.vault_eq
    intro columns hcolumns
    simp only [Prod.mk.injEq] at hcolumns ⊢
    exact ⟨trivial, hcolumns.2⟩
  | pauseVault h =>
    rw [h.event_eq, h.post_eq]
    apply Tracks.update h.vault_eq
    intro columns hcolumns
    simp only [Prod.mk.injEq] at hcolumns ⊢
    exact ⟨hcolumns.1, trivial⟩
  | unpauseVault h =>
    rw [h.event_eq, h.post_eq]
    apply Tracks.update h.vault_eq
    intro columns hcolumns
    simp only [Prod.mk.injEq] at hcolumns ⊢
    exact ⟨hcolumns.1, trivial⟩
  | requestWithdrawal h =>
    -- the row does not show the counter of the requests
    rw [h.event_eq, h.post_eq]
    unfold Tracks opAt
    dsimp only [Option.bind_some, vaultOp, Option.bind_none]
    rw [Function.update_apply]
    split
    . next heq =>
      rw [heq, h.vault_eq]
      rfl
    . rfl
  | dispatch => rfl
  | thirdParty => rfl
  | createEscrow _ h =>
    rw [h.event_eq, h.post_eq]
    rfl
  | deposit _ h =>
    rw [h.event_eq, h.post_eq]
    rfl
  | releaseEscrow h =>
    rw [h.event_eq, h.settled.post_eq]
    rfl
  | refundEscrow h =>
    rw [h.event_eq, h.settled.post_eq]
    rfl
  | _ h =>
    rw [h.event_eq, h.post_eq]
    rfl

theorem Effect.tracks_withdrawalRequest (h : Effect s a s' event) (key : Pubkey) :
    Tracks WithdrawalColumns.status ((s.withdrawalRequest key).map WithdrawalRequest.status)
      ((s'.withdrawalRequest key).map WithdrawalRequest.status)
      (opAt key (event.bind withdrawalOp)) := by
  cases h with
  | requestWithdrawal h =>
    rw [h.event_eq, h.post_eq]
    apply Tracks.create (State.vacant_of_unallocated h.fresh).withdrawalRequest
    rfl
  | executeWithdrawal h =>
    rw [h.event_eq, h.post_eq]
    apply Tracks.update h.request_eq
    intro _ _
    rfl
  | cancelWithdrawal h =>
    rw [h.event_eq, h.post_eq]
    apply Tracks.update h.request_eq
    intro _ _
    rfl
  | dispatch => rfl
  | thirdParty => rfl
  | createEscrow _ h =>
    rw [h.event_eq, h.post_eq]
    rfl
  | createVault _ h =>
    rw [h.event_eq, h.post_eq]
    rfl
  | deposit _ h =>
    rw [h.event_eq, h.post_eq]
    rfl
  | releaseEscrow h =>
    rw [h.event_eq, h.settled.post_eq]
    rfl
  | refundEscrow h =>
    rw [h.event_eq, h.settled.post_eq]
    rfl
  | _ h =>
    rw [h.event_eq, h.post_eq]
    rfl

end Tracks

theorem Effect.storable {s s' : State Pubkey} {a : Action Pubkey}
    {event : Option (IronVaultEvent Pubkey)} (h : Effect s a s' event) : ∀ e ∈ event, Storable e := by
  intro event hevent
  have hlt : initialSchemaVersion.toNat < 2 ^ 15 := by decide
  have hpos : 0 < initialSchemaVersion := by decide
  cases h with
  | dispatch => simp at hevent
  | thirdParty => simp at hevent
  | createEscrow _ h =>
    cases hevent
    rw [h.event_eq]
    refine ⟨hlt, hpos, ?_, nofun⟩
    intro e he
    cases he
    exact h.amount_pos
  | requestWithdrawal h =>
    cases hevent
    rw [h.event_eq]
    refine ⟨hlt, hpos, nofun, ?_⟩
    intro e he
    cases he
    exact h.amount_pos
  | createVault _ h =>
    cases hevent
    rw [h.event_eq]
    exact ⟨hlt, hpos, nofun, nofun⟩
  | deposit _ h =>
    cases hevent
    rw [h.event_eq]
    exact ⟨hlt, hpos, nofun, nofun⟩
  | _ h =>
    cases hevent
    rw [h.event_eq]
    exact ⟨hlt, hpos, nofun, nofun⟩

theorem History.storable {tr : List (Transition (State Pubkey) (Action Pubkey))} {s : State Pubkey}
    (h : History tr s) {event : IronVaultEvent Pubkey} (hevent : event ∈ emittedEvents tr) :
    Storable event := by
  obtain ⟨t, ht, hemitted⟩ := List.mem_filterMap.mp hevent
  obtain ⟨_, -, hstep⟩ := Run.of_mem h ht
  obtain ⟨_, heq, heffect⟩ := hstep.effect
  rw [hemitted] at heq
  exact Effect.storable heffect event heq.symm

inductive RowKey (Pubkey : Type) where
  | escrow (key : Pubkey)
  | vault (key : Pubkey)
  | withdrawalRequest (key : Pubkey)
  deriving DecidableEq

def writtenRow : IronVaultEvent Pubkey → Option (RowKey Pubkey)
  | .escrowCreated event => some (.escrow event.escrow)
  | .escrowReleased event => some (.escrow event.escrow)
  | .escrowRefunded event => some (.escrow event.escrow)
  | .vaultCreated event => some (.vault event.vault)
  | .vaultAuthorityUpdated event => some (.vault event.vault)
  | .vaultPauseUpdated event => some (.vault event.vault)
  | .withdrawalRequested event => some (.withdrawalRequest event.withdrawalRequest)
  | .withdrawalExecuted event => some (.withdrawalRequest event.withdrawalRequest)
  | .withdrawalCancelled event => some (.withdrawalRequest event.withdrawalRequest)
  | _ => none

/--
A table that is derived from the events, with what it shows of the accounts on the chain.
-/
structure Projection (Pubkey Columns View : Type) [DecidableEq Pubkey] [Solana Pubkey] where
  rows : Database Pubkey → Pubkey → Option (Row Columns)
  op : IronVaultEvent Pubkey → Option (Pubkey × Register.Op Columns)
  row : Pubkey → RowKey Pubkey
  view : Columns → View
  account : State Pubkey → Pubkey → Option View
  row_eq {event : IronVaultEvent Pubkey} {key : Pubkey} {x : Register.Op Columns}
    (h : op event = some (key, x)) : writtenRow event = some (row key)
  rows_empty (key : Pubkey) : rows .empty key = none
  rows_store (db : Database Pubkey) (observed : ObservedEvent Pubkey) :
    rows (db.store observed) = rows db
  rows_updateCheckpoint (db : Database Pubkey) (observed : ObservedEvent Pubkey)
    (position : Position) : rows (db.updateCheckpoint observed position) = rows db
  rows_projected {db db' : Database Pubkey} {observed : ObservedEvent Pubkey} {position : Position}
    (h : db.Projected observed position db') (key : Pubkey) :
    (rows db' key).map Row.entry
      = writeRow position (op observed.event) key ((rows db key).map Row.entry)
  account_empty (key : Pubkey) : account .empty key = none
  tracks {s s' : State Pubkey} {a : Action Pubkey} {event : Option (IronVaultEvent Pubkey)}
    (h : Effect s a s' event) (key : Pubkey) :
    Tracks view (account s key) (account s' key) (opAt key (event.bind op))

namespace Projection

def escrows : Projection Pubkey (EscrowColumns Pubkey) EscrowStatus where
  rows := Database.escrows
  op := escrowOp
  row := .escrow
  view := EscrowColumns.status
  account s key := (s.escrow key).map Escrow.status
  row_eq {event key x} h := by cases event <;> cases h <;> rfl
  rows_empty _ := rfl
  rows_store _ _ := rfl
  rows_updateCheckpoint _ _ := Database.updateCheckpoint_escrows
  rows_projected h := h.escrows_eq
  account_empty _ := rfl
  tracks h := Effect.tracks_escrow h

def vaults : Projection Pubkey (VaultColumns Pubkey) (Pubkey × Bool) where
  rows := Database.vaults
  op := vaultOp
  row := .vault
  view columns := (columns.authority, columns.paused)
  account s key := (s.vault key).map fun vault => (vault.authority, vault.paused)
  row_eq {event key x} h := by cases event <;> cases h <;> rfl
  rows_empty _ := rfl
  rows_store _ _ := rfl
  rows_updateCheckpoint _ _ := Database.updateCheckpoint_vaults
  rows_projected h := h.vaults_eq
  account_empty _ := rfl
  tracks h := Effect.tracks_vault h

def withdrawalRequests : Projection Pubkey (WithdrawalColumns Pubkey) WithdrawalStatus where
  rows := Database.withdrawalRequests
  op := withdrawalOp
  row := .withdrawalRequest
  view := WithdrawalColumns.status
  account s key := (s.withdrawalRequest key).map WithdrawalRequest.status
  row_eq {event key x} h := by cases event <;> cases h <;> rfl
  rows_empty _ := rfl
  rows_store _ _ := rfl
  rows_updateCheckpoint _ _ := Database.updateCheckpoint_withdrawalRequests
  rows_projected h := h.withdrawalRequests_eq
  account_empty _ := rfl
  tracks h := Effect.tracks_withdrawalRequest h

variable {Columns View : Type} (t : Projection Pubkey Columns View) (key : Pubkey)

def write (observed : ObservedEvent Pubkey) : Option (Register.Write Position Columns) :=
  (opAt key (t.op observed.event)).map fun op => ⟨observed.position, op⟩

theorem writeRow_eq (observed : ObservedEvent Pubkey)
    (entry : Option (Register.Entry Position Columns)) :
    writeRow observed.position (t.op observed.event) key entry
      = match t.write key observed with
        | some w => Register.write entry w
        | none => entry := by
  unfold writeRow write opAt
  cases t.op observed.event with
  | none => rfl
  | some x =>
    dsimp only [Option.bind_some]
    split <;> rfl

theorem rows_persistAll {deliveries : List (ObservedEvent Pubkey)} {db : Database Pubkey}
    (h : Database.empty.persistAll deliveries = .ok db) :
    (t.rows db key).map Row.entry
      = Register.run ((firstDeliveries deliveries).filterMap (t.write key)) := by
  induction deliveries using List.reverseRecOn generalizing db with
  | nil =>
    cases h
    rw [t.rows_empty]
    rfl
  | append_singleton deliveries observed ih =>
    obtain ⟨next, _, hnext, hpersist⟩ := Database.persistAll_append.mp h
    have hstored := Database.persistAll_isSome_iff hnext observed.id
    simp only [Database.empty, Option.isSome_none, Bool.false_eq_true, false_or] at hstored
    rw [firstDeliveries_append]
    cases Database.persist_ok hpersist with
    | again hagain =>
      rw [t.rows_updateCheckpoint, ih hnext, if_pos (hstored.mp hagain), List.append_nil]
    | first hfresh happly =>
      rw [if_neg (by rw [← hstored]; simp [hfresh])]
      rw [t.rows_updateCheckpoint, t.rows_projected (Database.applyProjection_ok happly),
        t.rows_store, writeRow_eq, ih hnext, List.filterMap_append]
      cases hwrite : t.write key observed with
      | none => simp [hwrite]
      | some w => simp [hwrite]

def ops (events : List (IronVaultEvent Pubkey)) : List (Register.Op Columns) :=
  events.filterMap fun event => opAt key (t.op event)

theorem account_history {tr : List (Transition (State Pubkey) (Action Pubkey))} {s : State Pubkey}
    (h : History tr s) :
    Register.Lifecycle (t.ops key (emittedEvents tr)) ∧
      (Register.replay (t.ops key (emittedEvents tr))).map t.view = t.account s key := by
  induction h with
  | nil => exact ⟨.inl rfl, (t.account_empty key).symm⟩
  | @snoc tr s s' a run hstep ih =>
    obtain ⟨hlife, hreplay⟩ := ih
    obtain ⟨event, hemitted, heffect⟩ := hstep.effect
    have htracks := t.tracks heffect key
    have hops : t.ops key (emittedEvents (tr ++ [⟨s, a, s'⟩]))
        = t.ops key (emittedEvents tr) ++ (opAt key (event.bind t.op)).toList := by
      unfold ops emittedEvents
      rw [List.filterMap_append, List.filterMap_append]
      congr 1
      dsimp only [List.filterMap_cons, List.filterMap_nil]
      rw [hemitted]
      cases event with
      | none => rfl
      | some event =>
        dsimp only [Option.bind_some]
        cases hop : opAt key (t.op event) <;> simp [hop]
    rw [hops]
    cases hop : opAt key (event.bind t.op) with
    | none =>
      rw [hop] at htracks
      rw [Option.toList_none, List.append_nil]
      exact ⟨hlife, hreplay.trans htracks.symm⟩
    | some op =>
      rw [hop] at htracks
      rw [Option.toList_some, Register.replay_append]
      refine ⟨hlife.append ?_, htracks.2 _ hreplay⟩
      rw [htracks.1, ← hreplay, Option.map_eq_none_iff]

end Projection

end IronVault.Observer
