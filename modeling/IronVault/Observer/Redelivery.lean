import IronVault.Observer.Lemmas.Database
import IronVault.Program.Symbolic

/-!
This module contains what any sequence of calls of `persist` keeps: positions do not move back, a row
with a final status keeps a final status, and an event that is stored is not stored again.
-/

namespace IronVault.Observer

variable {Pubkey : Type} [DecidableEq Pubkey]

section Tables

open Register

variable {κ Columns : Type} [DecidableEq κ]

def TableGrows (final : Columns → Prop) (table table' : κ → Option (Row Columns)) : Prop :=
  ∀ key row, table key = some row → ∃ row', table' key = some row' ∧ row.last ≤ row'.last ∧
    (final row.columns → final row'.columns)

omit [DecidableEq κ] in
theorem TableGrows.refl (final : Columns → Prop) (table : κ → Option (Row Columns)) :
    TableGrows final table table := by
  intro key row hrow
  exact ⟨row, hrow, le_refl _, id⟩

omit [DecidableEq κ] in
theorem TableGrows.trans {final : Columns → Prop} {t t' t'' : κ → Option (Row Columns)}
    (h : TableGrows final t t') (h' : TableGrows final t' t'') : TableGrows final t t'' := by
  intro key row hrow
  obtain ⟨row', hrow', hle, hfinal⟩ := h key row hrow
  obtain ⟨row'', hrow'', hle', hfinal'⟩ := h' key row' hrow'
  exact ⟨row'', hrow'', le_trans hle hle', fun hc => hfinal' (hfinal hc)⟩

theorem writeRow_some (position : Position) (x : Option (κ × Op Columns)) (key : κ)
    (e : Entry Position Columns) :
    ∃ e', writeRow position x key (some e) = some e' ∧ e.last ≤ e'.last ∧
      (e'.value = e.value ∨ ∃ f, x = some (key, .update f) ∧ e'.value = f e.value) := by
  unfold writeRow
  cases x with
  | none => exact ⟨e, rfl, le_refl _, .inl rfl⟩
  | some x =>
    obtain ⟨k, op⟩ := x
    dsimp only
    split
    . next heq =>
      obtain ⟨e', hwrite, hle, hvalue⟩ := write_some e ⟨position, op⟩
      refine ⟨e', hwrite, hle, ?_⟩
      rcases hvalue with hvalue | ⟨f, hop, hvalue⟩
      . exact .inl hvalue
      . exact .inr ⟨f, by rw [heq, ← hop], hvalue⟩
    . exact ⟨e, rfl, le_refl _, .inl rfl⟩

theorem TableGrows.of_writeRow {final : Columns → Prop} {table table' : κ → Option (Row Columns)}
    {position : Position} {x : Option (κ × Op Columns)}
    (h : ∀ key, (table' key).map Row.entry
      = writeRow position x key ((table key).map Row.entry))
    (hfinal : ∀ key f columns, x = some (key, .update f) → final (f columns)) :
    TableGrows final table table' := by
  intro key row hrow
  obtain ⟨e', hwrite, hle, hvalue⟩ := writeRow_some position x key row.entry
  have heq := h key
  rw [hrow, Option.map_some, hwrite, Option.map_eq_some_iff] at heq
  obtain ⟨row', hrow', rfl⟩ := heq
  refine ⟨row', hrow', hle, ?_⟩
  intro hc
  rcases hvalue with hvalue | ⟨f, hx, hvalue⟩
  . change row'.columns = row.columns at hvalue
    rw [hvalue]
    exact hc
  . change row'.columns = f row.columns at hvalue
    rw [hvalue]
    exact hfinal key f row.columns hx

end Tables

omit [DecidableEq Pubkey] in
theorem escrowOp_update {event : IronVaultEvent Pubkey} {key : Pubkey}
    {f : EscrowColumns Pubkey → EscrowColumns Pubkey} (columns : EscrowColumns Pubkey)
    (h : escrowOp event = some (key, .update f)) : (f columns).status ≠ .funded := by
  cases event with
  | escrowReleased event =>
    cases h
    simp
  | escrowRefunded event =>
    cases h
    simp
  | _ => cases h

omit [DecidableEq Pubkey] in
theorem withdrawalOp_update {event : IronVaultEvent Pubkey} {key : Pubkey}
    {f : WithdrawalColumns Pubkey → WithdrawalColumns Pubkey} (columns : WithdrawalColumns Pubkey)
    (h : withdrawalOp event = some (key, .update f)) : (f columns).status ≠ .pending := by
  cases event with
  | withdrawalExecuted event =>
    cases h
    simp
  | withdrawalCancelled event =>
    cases h
    simp
  | _ => cases h

namespace Database

structure Grows (db db' : Database Pubkey) : Prop where
  protocolEvents {id : EventId} {row : EventRow Pubkey} :
    db.protocolEvents id = some row → db'.protocolEvents id = some row
  escrows : TableGrows (·.status ≠ .funded) db.escrows db'.escrows
  vaults : TableGrows (fun _ => True) db.vaults db'.vaults
  withdrawalRequests :
    TableGrows (·.status ≠ .pending) db.withdrawalRequests db'.withdrawalRequests
  checkpoint {checkpoint : Checkpoint} : db.syncCheckpoint = some checkpoint →
    ∃ checkpoint', db'.syncCheckpoint = some checkpoint' ∧ checkpoint.position ≤ checkpoint'.position

namespace Grows

variable {db db' db'' : Database Pubkey}

omit [DecidableEq Pubkey] in
theorem refl (db : Database Pubkey) : Grows db db where
  protocolEvents h := h
  escrows := .refl _ _
  vaults := .refl _ _
  withdrawalRequests := .refl _ _
  checkpoint h := ⟨_, h, le_refl _⟩

omit [DecidableEq Pubkey] in
theorem trans (h : Grows db db') (h' : Grows db' db'') : Grows db db'' where
  protocolEvents hrow := h'.protocolEvents (h.protocolEvents hrow)
  escrows := h.escrows.trans h'.escrows
  vaults := h.vaults.trans h'.vaults
  withdrawalRequests := h.withdrawalRequests.trans h'.withdrawalRequests
  checkpoint hcheckpoint := by
    obtain ⟨next, hnext, hle⟩ := h.checkpoint hcheckpoint
    obtain ⟨last, hlast, hle'⟩ := h'.checkpoint hnext
    exact ⟨last, hlast, le_trans hle hle'⟩

theorem of_projected {observed : ObservedEvent Pubkey} {position : Position}
    (h : Projected db observed position db') (hcheckpoint : db'.syncCheckpoint = db.syncCheckpoint) :
    Grows db db' where
  protocolEvents hrow := by rw [h.protocolEvents_eq, hrow]
  escrows := .of_writeRow h.escrows_eq fun _ _ columns hop => escrowOp_update columns hop
  vaults := .of_writeRow h.vaults_eq fun _ _ _ _ => trivial
  withdrawalRequests :=
    .of_writeRow h.withdrawalRequests_eq fun _ _ columns hop => withdrawalOp_update columns hop
  checkpoint h := ⟨_, by rw [hcheckpoint, h], le_refl _⟩

end Grows

theorem applyProjection_checkpoint {db db' : Database Pubkey} {observed : ObservedEvent Pubkey}
    {position : Position} (h : db.applyProjection observed position = .ok db') :
    db'.syncCheckpoint = db.syncCheckpoint := by
  unfold applyProjection at h
  cases hevent : observed.event with
  | escrowCreated =>
    simp only [hevent, Except.bind_eq_ok_iff, Except.pure_eq_ok_iff] at h
    obtain ⟨-, -, rfl⟩ := h
    rfl
  | withdrawalRequested =>
    simp only [hevent, Except.bind_eq_ok_iff, Except.pure_eq_ok_iff] at h
    obtain ⟨-, -, rfl⟩ := h
    rfl
  | _ =>
    simp only [hevent, Except.pure_eq_ok_iff] at h
    subst h
    rfl

omit [DecidableEq Pubkey] in
theorem updateCheckpoint_position (db : Database Pubkey) (observed : ObservedEvent Pubkey)
    (position : Position) :
    ∃ checkpoint, (db.updateCheckpoint observed position).syncCheckpoint = some checkpoint ∧
      position ≤ checkpoint.position := by
  unfold updateCheckpoint
  cases hcheckpoint : db.syncCheckpoint with
  | none => exact ⟨_, rfl, le_refl _⟩
  | some current =>
    dsimp only
    split
    . exact ⟨_, rfl, le_refl _⟩
    . next hle => exact ⟨current, hcheckpoint, not_lt.mp hle⟩

omit [DecidableEq Pubkey] in
theorem updateCheckpoint_grows (db : Database Pubkey) (observed : ObservedEvent Pubkey)
    (position : Position) : Grows db (db.updateCheckpoint observed position) where
  protocolEvents hrow := by rw [updateCheckpoint_protocolEvents, hrow]
  escrows := by
    rw [updateCheckpoint_escrows]
    exact .refl _ _
  vaults := by
    rw [updateCheckpoint_vaults]
    exact .refl _ _
  withdrawalRequests := by
    rw [updateCheckpoint_withdrawalRequests]
    exact .refl _ _
  checkpoint {current} hcurrent := by
    unfold updateCheckpoint
    rw [hcurrent]
    dsimp only
    split
    . next hlt => exact ⟨_, rfl, le_of_lt hlt⟩
    . exact ⟨current, hcurrent, le_refl _⟩

omit [DecidableEq Pubkey] in
theorem updateCheckpoint_of_le {db : Database Pubkey} {observed : ObservedEvent Pubkey}
    {position : Position} {checkpoint : Checkpoint} (h : db.syncCheckpoint = some checkpoint)
    (hle : position ≤ checkpoint.position) : db.updateCheckpoint observed position = db := by
  unfold updateCheckpoint
  rw [h]
  dsimp only
  rw [if_neg (not_lt.mpr hle)]

omit [DecidableEq Pubkey] in
theorem store_grows {db : Database Pubkey} {observed : ObservedEvent Pubkey}
    (hfresh : db.protocolEvents observed.id = none) : Grows db (db.store observed) where
  protocolEvents {id row} hrow := by
    unfold store
    dsimp only
    rw [Function.update_of_ne, hrow]
    rintro rfl
    rw [hfresh] at hrow
    contradiction
  escrows := .refl _ _
  vaults := .refl _ _
  withdrawalRequests := .refl _ _
  checkpoint h := ⟨_, h, le_refl _⟩

theorem Persisted.grows {db db' : Database Pubkey} {observed : ObservedEvent Pubkey}
    (h : Persisted db observed db') : Grows db db' := by
  cases h with
  | again hstored => exact updateCheckpoint_grows db observed _
  | first hfresh happly =>
    apply Grows.trans (store_grows hfresh)
    apply Grows.trans (.of_projected (applyProjection_ok happly) (applyProjection_checkpoint happly))
    apply updateCheckpoint_grows

/--
One call of `persist`. A call that fails leaves the database as it was.
-/
def deliver (db : Database Pubkey) (observed : ObservedEvent Pubkey) : Database Pubkey :=
  match db.persist observed with
  | .ok (db', _) => db'
  | .error _ => db

def deliverAll (db : Database Pubkey) (events : List (ObservedEvent Pubkey)) : Database Pubkey :=
  events.foldl deliver db

theorem deliver_cases (db : Database Pubkey) (observed : ObservedEvent Pubkey) :
    db.deliver observed = db ∨ ∃ inserted, db.persist observed = .ok (db.deliver observed, inserted) := by
  unfold deliver
  cases db.persist observed with
  | ok result => exact .inr ⟨result.2, rfl⟩
  | error => exact .inl rfl

theorem deliver_grows (db : Database Pubkey) (observed : ObservedEvent Pubkey) :
    Grows db (db.deliver observed) := by
  rcases deliver_cases db observed with heq | ⟨inserted, hpersist⟩
  . rw [heq]
    exact .refl db
  . exact (persist_ok hpersist).grows

theorem deliverAll_grows (db : Database Pubkey) (events : List (ObservedEvent Pubkey)) :
    Grows db (db.deliverAll events) := by
  induction events generalizing db with
  | nil => exact .refl db
  | cons observed events ih => exact (deliver_grows db observed).trans (ih (db.deliver observed))

end Database

def EventRow.position (row : EventRow Pubkey) (id : EventId) : Position :=
  ⟨row.slot, id.instructionIndex.toNat, id.eventIndex.toNat⟩

/--
The conversions of `persist` accept the stored event, and the checkpoint is not below it.
-/
structure Database.Accepts (db : Database Pubkey) (id : EventId) (row : EventRow Pubkey) : Prop where
  slot_lt : row.slot < 2 ^ 63
  instructionIndex_lt : id.instructionIndex.toNat < 2 ^ 31
  eventIndex_lt : id.eventIndex.toNat < 2 ^ 31
  version_lt : row.event.version.toNat < 2 ^ 15
  version_pos : 0 < row.event.version
  checkpoint : ∃ checkpoint, db.syncCheckpoint = some checkpoint ∧
    row.position id ≤ checkpoint.position

def Database.Consistent (db : Database Pubkey) : Prop :=
  ∀ id row, db.protocolEvents id = some row → db.Accepts id row

namespace Database

omit [DecidableEq Pubkey] in
theorem Accepts.grows {db db' : Database Pubkey} {id : EventId} {row : EventRow Pubkey}
    (h : db.Accepts id row) (hgrows : Grows db db') : db'.Accepts id row := by
  obtain ⟨checkpoint, hcheckpoint, hle⟩ := h.checkpoint
  obtain ⟨checkpoint', hcheckpoint', hle'⟩ := hgrows.checkpoint hcheckpoint
  exact { h with checkpoint := ⟨checkpoint', hcheckpoint', le_trans hle hle'⟩ }

omit [DecidableEq Pubkey] in
theorem consistent_empty : Consistent (Database.empty : Database Pubkey) := by
  intro id row hrow
  cases hrow

theorem Persisted.protocolEvents_cases {db db' : Database Pubkey} {observed : ObservedEvent Pubkey}
    (h : Persisted db observed db') {id : EventId} {row : EventRow Pubkey}
    (hrow : db'.protocolEvents id = some row) :
    db.protocolEvents id = some row ∨
      id = observed.id ∧ row = ⟨observed.slot.toNat, observed.blockTime, observed.event⟩ := by
  cases h with
  | again hstored =>
    rw [updateCheckpoint_protocolEvents] at hrow
    exact .inl hrow
  | first hfresh happly =>
    rw [updateCheckpoint_protocolEvents, (applyProjection_ok happly).protocolEvents_eq] at hrow
    unfold store at hrow
    dsimp only at hrow
    rw [Function.update_apply] at hrow
    split at hrow
    . next heq =>
      cases hrow
      exact .inr ⟨heq, rfl⟩
    . exact .inl hrow

theorem Persisted.checkpoint {db db' : Database Pubkey} {observed : ObservedEvent Pubkey}
    (h : Persisted db observed db') :
    ∃ checkpoint, db'.syncCheckpoint = some checkpoint ∧ observed.position ≤ checkpoint.position := by
  cases h with
  | again hstored => apply updateCheckpoint_position
  | first hfresh happly => apply updateCheckpoint_position

theorem persist_accepts {db db' : Database Pubkey} {observed : ObservedEvent Pubkey}
    {inserted : Bool} (h : db.persist observed = .ok (db', inserted)) :
    db'.Accepts observed.id ⟨observed.slot.toNat, observed.blockTime, observed.event⟩ := by
  have hcheckpoint := (persist_ok h).checkpoint
  unfold persist at h
  simp only [Except.bind_eq_ok_iff, require_eq_ok, exists_const] at h
  obtain ⟨hslot, hinstruction, hevent, hversion, hpos, -⟩ := h
  exact ⟨hslot, hinstruction, hevent, hversion, hpos, hcheckpoint⟩

theorem Consistent.deliver {db : Database Pubkey} (h : db.Consistent)
    (observed : ObservedEvent Pubkey) : (db.deliver observed).Consistent := by
  rcases deliver_cases db observed with heq | ⟨inserted, hpersist⟩
  . rw [heq]
    exact h
  . intro id row hrow
    rcases (persist_ok hpersist).protocolEvents_cases hrow with hold | ⟨rfl, rfl⟩
    . exact (h id row hold).grows (deliver_grows db observed)
    . exact persist_accepts hpersist

theorem Consistent.deliverAll {db : Database Pubkey} (h : db.Consistent)
    (events : List (ObservedEvent Pubkey)) : (db.deliverAll events).Consistent := by
  induction events generalizing db with
  | nil => exact h
  | cons observed events ih => exact ih (h.deliver observed)

theorem Consistent.persist_again {db : Database Pubkey} (h : db.Consistent)
    {observed : ObservedEvent Pubkey} {row : EventRow Pubkey}
    (hrow : db.protocolEvents observed.id = some row) (hslot : row.slot = observed.slot.toNat)
    (hevent : row.event = observed.event) : db.persist observed = .ok (db, false) := by
  have haccepts := h observed.id row hrow
  obtain ⟨checkpoint, hcheckpoint, hle⟩ := haccepts.checkpoint
  unfold EventRow.position at hle
  rw [hslot] at hle
  unfold persist
  simp only [Except.bind_eq_ok_iff, require_eq_ok, exists_const]
  refine ⟨?_, haccepts.instructionIndex_lt, haccepts.eventIndex_lt, ?_, ?_, ?_⟩
  . rw [← hslot]
    exact haccepts.slot_lt
  . rw [← hevent]
    exact haccepts.version_lt
  . rw [← hevent]
    exact haccepts.version_pos
  . rw [hrow]
    dsimp only
    rw [updateCheckpoint_of_le hcheckpoint hle]
    rfl

end Database

/--
Delivering an event again changes nothing, and no position moves back, in any sequence of calls of
`persist`.
-/
theorem redelivery_noop {events later : List (ObservedEvent Pubkey)} {db db' : Database Pubkey}
    (hdb : db = Database.empty.deliverAll events) (hdb' : db' = db.deliverAll later) :
    (∀ id row, db.protocolEvents id = some row → ∃ checkpoint,
      db.syncCheckpoint = some checkpoint ∧ row.position id ≤ checkpoint.position) ∧
    db.Grows db' ∧
    ∀ observed row, db.protocolEvents observed.id = some row → row.slot = observed.slot.toNat →
      row.event = observed.event → db'.persist observed = .ok (db', false) := by
  subst hdb hdb'
  have hconsistent := Database.consistent_empty.deliverAll events
  have hgrows := Database.deliverAll_grows (Database.empty.deliverAll events) later
  refine ⟨?_, hgrows, ?_⟩
  . intro id row hrow
    exact (hconsistent id row hrow).checkpoint
  . intro observed row hrow hslot hevent
    exact (hconsistent.deliverAll later).persist_again (hgrows.protocolEvents hrow) hslot hevent

end IronVault.Observer

namespace IronVault.Scenario

open Observer

def createObserved (blockTime : Option Int64) : ObservedEvent Key :=
  ⟨⟨"create", 0, 0⟩, 2, blockTime, vaultCreated⟩

def pauseObserved : ObservedEvent Key :=
  ⟨⟨"pause", 0, 0⟩, 3, none, vaultPauseUpdated true⟩

-- The live notification has no block time, reconciliation delivers the event again with one.
theorem redelivery_noop_created :
    ∃ db : Database Key,
      db = (Database.empty.deliverAll [createObserved none]).deliverAll [pauseObserved] ∧
      db.persist (createObserved (some 1700000000)) = .ok (db, false) := by
  have hnoop := @redelivery_noop Key _ [createObserved none] [pauseObserved] _ _ rfl rfl
  refine ⟨_, rfl, ?_⟩
  exact hnoop.2.2 (createObserved (some 1700000000)) ⟨2, none, vaultCreated⟩ rfl rfl rfl

end IronVault.Scenario
