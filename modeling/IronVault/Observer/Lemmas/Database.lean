import IronVault.Util.Register
import IronVault.Observer.Impl.Database

/-!
This module contains what a call of `persist` does: which events are stored after it, and what it
does to the row of a projection, which is a register in the sense of `Register`.
-/

namespace IronVault.Observer

variable {Pubkey : Type} [DecidableEq Pubkey]

def ObservedEvent.position (observed : ObservedEvent Pubkey) : Position :=
  ⟨observed.slot.toNat, observed.id.instructionIndex.toNat, observed.id.eventIndex.toNat⟩

structure ObservedEvent.InRange (observed : ObservedEvent Pubkey) : Prop where
  slot_lt : observed.slot.toNat < 2 ^ 63
  instructionIndex_lt : observed.id.instructionIndex.toNat < 2 ^ 31
  eventIndex_lt : observed.id.eventIndex.toNat < 2 ^ 31

structure Storable (event : IronVaultEvent Pubkey) : Prop where
  version_lt : event.version.toNat < 2 ^ 15
  version_pos : 0 < event.version
  escrow_amount {e : EscrowCreated Pubkey} : event = .escrowCreated e → 0 < e.amount
  withdrawal_amount {e : WithdrawalRequested Pubkey} : event = .withdrawalRequested e → 0 < e.amount

section Register

open Register

variable {κ Columns : Type} [DecidableEq κ]

def Row.entry (row : Row Columns) : Entry Position Columns :=
  ⟨row.columns, row.last⟩

def writeRow (position : Position) (x : Option (κ × Op Columns)) (key : κ)
    (entry : Option (Entry Position Columns)) : Option (Entry Position Columns) :=
  match x with
  | some (k, op) => if k = key then write entry ⟨position, op⟩ else entry
  | none => entry

theorem insertOrIgnore_entry {table : κ → Option (Row Columns)} {key : κ} {columns : Columns}
    {last : Position} {signature : String} (k : κ) :
    (insertOrIgnore table key ⟨columns, last, signature⟩ k).map Row.entry
      = writeRow last (some (key, .create columns)) k ((table k).map Row.entry) := by
  unfold insertOrIgnore writeRow
  dsimp only
  by_cases heq : key = k
  . rw [if_pos heq, ← heq]
    cases hrow : table key with
    | none => simp [write, Row.entry]
    | some row => simp [hrow, write]
  . rw [if_neg heq]
    cases hrow : table key with
    | none =>
      dsimp only
      rw [Function.update_of_ne (Ne.symm heq)]
    | some row => rfl

theorem updateIfNewer_entry {table : κ → Option (Row Columns)} {key : κ} {f : Columns → Columns}
    {position : Position} {signature : String} (k : κ) :
    (updateIfNewer table key f signature position k).map Row.entry
      = writeRow position (some (key, .update f)) k ((table k).map Row.entry) := by
  unfold updateIfNewer writeRow
  dsimp only
  by_cases heq : key = k
  . rw [if_pos heq, ← heq]
    cases hrow : table key with
    | none => simp [hrow, write]
    | some row =>
      by_cases hlt : row.last < position
      . simp [write, Row.entry, hlt]
      . simp [write, Row.entry, hlt, hrow]
  . rw [if_neg heq]
    cases hrow : table key with
    | none => rfl
    | some row =>
      dsimp only
      split
      . rw [Function.update_of_ne (Ne.symm heq)]
      . rfl

end Register

section Operations

open Register

def escrowOp : IronVaultEvent Pubkey → Option (Pubkey × Op (EscrowColumns Pubkey))
  | .escrowCreated event =>
    some (event.escrow, .create {
      escrowToken := event.escrowToken
      maker := event.maker
      recipient := event.recipient
      mint := event.mint
      amount := event.amount
      escrowId := event.escrowId
      createdAt := event.createdAt
      expiresAt := event.expiresAt
      status := .funded
    })
  | .escrowReleased event => some (event.escrow, .update ({ · with status := .released }))
  | .escrowRefunded event => some (event.escrow, .update ({ · with status := .refunded }))
  | _ => none

def vaultOp : IronVaultEvent Pubkey → Option (Pubkey × Op (VaultColumns Pubkey))
  | .vaultCreated event =>
    some (event.vault, .create {
      namespaceAuthority := event.namespaceAuthority
      authority := event.authority
      guardian := event.guardian
      vaultId := event.vaultId
      paused := false
    })
  | .vaultAuthorityUpdated event =>
    some (event.vault, .update ({ · with authority := event.newAuthority }))
  | .vaultPauseUpdated event => some (event.vault, .update ({ · with paused := event.paused }))
  | _ => none

def withdrawalOp : IronVaultEvent Pubkey → Option (Pubkey × Op (WithdrawalColumns Pubkey))
  | .withdrawalRequested event =>
    some (event.withdrawalRequest, .create {
      vault := event.vault
      vaultAsset := event.vaultAsset
      proposer := event.proposer
      recipientOwner := event.recipientOwner
      recipientTokenAccount := event.recipientTokenAccount
      mint := event.mint
      withdrawalId := event.withdrawalId
      amount := event.amount
      createdAt := event.createdAt
      executeAfter := event.executeAfter
      expiresAt := event.expiresAt
      status := .pending
    })
  | .withdrawalExecuted event =>
    some (event.withdrawalRequest, .update ({ · with status := .executed }))
  | .withdrawalCancelled event =>
    some (event.withdrawalRequest, .update ({ · with status := .cancelled }))
  | _ => none

end Operations

namespace Database

variable {db db' : Database Pubkey} {observed : ObservedEvent Pubkey}

def store (db : Database Pubkey) (observed : ObservedEvent Pubkey) : Database Pubkey where
  protocolEvents := Function.update db.protocolEvents observed.id
    (some ⟨observed.slot.toNat, observed.blockTime, observed.event⟩)
  escrows := db.escrows
  vaults := db.vaults
  withdrawalRequests := db.withdrawalRequests
  syncCheckpoint := db.syncCheckpoint

inductive Persisted (db : Database Pubkey) (observed : ObservedEvent Pubkey) :
    Database Pubkey → Prop where
  | again (hstored : (db.protocolEvents observed.id).isSome) :
      Persisted db observed (db.updateCheckpoint observed observed.position)
  | first {projected : Database Pubkey} (hfresh : db.protocolEvents observed.id = none)
      (happly : (db.store observed).applyProjection observed observed.position = .ok projected) :
      Persisted db observed (projected.updateCheckpoint observed observed.position)

theorem persist_ok {inserted : Bool} (h : db.persist observed = .ok (db', inserted)) :
    Persisted db observed db' := by
  unfold persist at h
  simp only [Except.bind_eq_ok_iff, require_eq_ok, exists_const] at h
  obtain ⟨-, -, -, -, -, h⟩ := h
  cases hstored : db.protocolEvents observed.id with
  | none =>
    simp only [hstored, Except.bind_eq_ok_iff, Except.pure_eq_ok_iff, Prod.mk.injEq] at h
    obtain ⟨projected, happly, rfl, -⟩ := h
    exact .first hstored happly
  | some row =>
    simp only [hstored, Except.pure_eq_ok_iff, Prod.mk.injEq] at h
    rw [← h.1]
    exact .again (by simp [hstored])

omit [DecidableEq Pubkey] in
theorem updateCheckpoint_eq (db : Database Pubkey) (observed : ObservedEvent Pubkey)
    (position : Position) :
    ∃ checkpoint, db.updateCheckpoint observed position = { db with syncCheckpoint := checkpoint } := by
  unfold updateCheckpoint
  split
  . exact ⟨_, rfl⟩
  . split
    . exact ⟨_, rfl⟩
    . exact ⟨db.syncCheckpoint, rfl⟩

omit [DecidableEq Pubkey] in
@[simp]
theorem updateCheckpoint_protocolEvents (position : Position) :
    (db.updateCheckpoint observed position).protocolEvents = db.protocolEvents := by
  obtain ⟨checkpoint, heq⟩ := updateCheckpoint_eq db observed position
  rw [heq]

omit [DecidableEq Pubkey] in
@[simp]
theorem updateCheckpoint_escrows (position : Position) :
    (db.updateCheckpoint observed position).escrows = db.escrows := by
  obtain ⟨checkpoint, heq⟩ := updateCheckpoint_eq db observed position
  rw [heq]

omit [DecidableEq Pubkey] in
@[simp]
theorem updateCheckpoint_vaults (position : Position) :
    (db.updateCheckpoint observed position).vaults = db.vaults := by
  obtain ⟨checkpoint, heq⟩ := updateCheckpoint_eq db observed position
  rw [heq]

omit [DecidableEq Pubkey] in
@[simp]
theorem updateCheckpoint_withdrawalRequests (position : Position) :
    (db.updateCheckpoint observed position).withdrawalRequests = db.withdrawalRequests := by
  obtain ⟨checkpoint, heq⟩ := updateCheckpoint_eq db observed position
  rw [heq]

structure Projected (db : Database Pubkey) (observed : ObservedEvent Pubkey) (position : Position)
    (db' : Database Pubkey) : Prop where
  protocolEvents_eq : db'.protocolEvents = db.protocolEvents
  escrows_eq (key : Pubkey) : (db'.escrows key).map Row.entry
    = writeRow position (escrowOp observed.event) key ((db.escrows key).map Row.entry)
  vaults_eq (key : Pubkey) : (db'.vaults key).map Row.entry
    = writeRow position (vaultOp observed.event) key ((db.vaults key).map Row.entry)
  withdrawalRequests_eq (key : Pubkey) : (db'.withdrawalRequests key).map Row.entry
    = writeRow position (withdrawalOp observed.event) key
      ((db.withdrawalRequests key).map Row.entry)

theorem applyProjection_ok {position : Position}
    (h : db.applyProjection observed position = .ok db') : Projected db observed position db' := by
  obtain ⟨id, slot, blockTime, event⟩ := observed
  cases event with
  | escrowCreated =>
    simp only [applyProjection, Except.bind_eq_ok_iff, Except.pure_eq_ok_iff] at h
    obtain ⟨-, -, rfl⟩ := h
    exact ⟨rfl, fun key => insertOrIgnore_entry key, fun _ => rfl, fun _ => rfl⟩
  | withdrawalRequested =>
    simp only [applyProjection, Except.bind_eq_ok_iff, Except.pure_eq_ok_iff] at h
    obtain ⟨-, -, rfl⟩ := h
    exact ⟨rfl, fun _ => rfl, fun _ => rfl, fun key => insertOrIgnore_entry key⟩
  | escrowReleased =>
    simp only [applyProjection, Except.pure_eq_ok_iff] at h
    subst h
    refine ⟨rfl, fun key => ?_, fun _ => rfl, fun _ => rfl⟩
    dsimp only [updateEscrowStatus, escrowOp]
    apply updateIfNewer_entry
  | escrowRefunded =>
    simp only [applyProjection, Except.pure_eq_ok_iff] at h
    subst h
    refine ⟨rfl, fun key => ?_, fun _ => rfl, fun _ => rfl⟩
    dsimp only [updateEscrowStatus, escrowOp]
    apply updateIfNewer_entry
  | vaultCreated =>
    simp only [applyProjection, Except.pure_eq_ok_iff] at h
    subst h
    exact ⟨rfl, fun _ => rfl, fun key => insertOrIgnore_entry key, fun _ => rfl⟩
  | vaultAuthorityUpdated =>
    simp only [applyProjection, Except.pure_eq_ok_iff] at h
    subst h
    refine ⟨rfl, fun _ => rfl, fun key => ?_, fun _ => rfl⟩
    dsimp only [vaultOp]
    apply updateIfNewer_entry
  | vaultPauseUpdated =>
    simp only [applyProjection, Except.pure_eq_ok_iff] at h
    subst h
    refine ⟨rfl, fun _ => rfl, fun key => ?_, fun _ => rfl⟩
    dsimp only [vaultOp]
    apply updateIfNewer_entry
  | withdrawalExecuted =>
    simp only [applyProjection, Except.pure_eq_ok_iff] at h
    subst h
    refine ⟨rfl, fun _ => rfl, fun _ => rfl, fun key => ?_⟩
    dsimp only [updateWithdrawalStatus, withdrawalOp]
    apply updateIfNewer_entry
  | withdrawalCancelled =>
    simp only [applyProjection, Except.pure_eq_ok_iff] at h
    subst h
    refine ⟨rfl, fun _ => rfl, fun _ => rfl, fun key => ?_⟩
    dsimp only [updateWithdrawalStatus, withdrawalOp]
    apply updateIfNewer_entry
  | _ =>
    simp only [applyProjection, Except.pure_eq_ok_iff] at h
    subst h
    exact ⟨rfl, fun _ => rfl, fun _ => rfl, fun _ => rfl⟩

theorem applyProjection_succeeds (db : Database Pubkey) (position : Position)
    (h : Storable observed.event) : ∃ db', db.applyProjection observed position = .ok db' := by
  unfold applyProjection
  cases hevent : observed.event with
  | escrowCreated e => simp [h.escrow_amount hevent]
  | withdrawalRequested e => simp [h.withdrawal_amount hevent]
  | _ => exact ⟨_, rfl⟩

theorem persist_succeeds (db : Database Pubkey) (hrange : observed.InRange)
    (h : Storable observed.event) : ∃ db' inserted, db.persist observed = .ok (db', inserted) := by
  unfold persist
  simp only [Except.bind_eq_ok_iff, require_eq_ok, exists_const, exists_and_left]
  refine ⟨hrange.slot_lt, hrange.instructionIndex_lt, hrange.eventIndex_lt, h.version_lt,
    h.version_pos, ?_⟩
  cases hstored : db.protocolEvents observed.id with
  | none =>
    obtain ⟨projected, happly⟩ := applyProjection_succeeds (db.store observed) observed.position h
    refine ⟨projected.updateCheckpoint observed observed.position, true, ?_⟩
    simp only [Except.bind_eq_ok_iff, Except.pure_eq_ok_iff, Prod.mk.injEq]
    exact ⟨projected, happly, rfl, trivial⟩
  | some row => exact ⟨_, _, rfl⟩

theorem Persisted.isSome_iff (h : Persisted db observed db') (id : EventId) :
    (db'.protocolEvents id).isSome ↔ (db.protocolEvents id).isSome ∨ observed.id = id := by
  cases h with
  | again hstored =>
    simp only [updateCheckpoint_protocolEvents]
    constructor
    . exact .inl
    . rintro (h | rfl)
      . exact h
      . exact hstored
  | first hfresh happly =>
    rw [updateCheckpoint_protocolEvents, (applyProjection_ok happly).protocolEvents_eq]
    unfold store
    dsimp only
    rw [Function.update_apply]
    split
    . next heq => simp [heq]
    . next hne => simp [Ne.symm hne]

@[simp]
theorem persistAll_nil (db : Database Pubkey) : db.persistAll [] = .ok db := rfl

theorem persistAll_append {events : List (ObservedEvent Pubkey)} :
    db.persistAll (events ++ [observed]) = .ok db' ↔
      ∃ next inserted, db.persistAll events = .ok next ∧
        next.persist observed = .ok (db', inserted) := by
  unfold persistAll
  simp only [List.foldlM_append, List.foldlM_cons, List.foldlM_nil, Except.bind_eq_ok_iff,
    Except.map_eq_ok_iff, Except.pure_eq_ok_iff]
  constructor
  . rintro ⟨next, hnext, _, ⟨⟨_, inserted⟩, hpersist, rfl⟩, rfl⟩
    exact ⟨next, inserted, hnext, hpersist⟩
  . rintro ⟨next, inserted, hnext, hpersist⟩
    exact ⟨next, hnext, db', ⟨(db', inserted), hpersist, rfl⟩, rfl⟩

theorem persistAll_succeeds (db : Database Pubkey) {events : List (ObservedEvent Pubkey)}
    (hrange : ∀ observed ∈ events, observed.InRange)
    (h : ∀ observed ∈ events, Storable observed.event) : ∃ db', db.persistAll events = .ok db' := by
  induction events using List.reverseRecOn with
  | nil => exact ⟨db, rfl⟩
  | append_singleton events observed ih =>
    obtain ⟨next, hnext⟩ := ih (fun o ho => hrange o (by simp [ho])) (fun o ho => h o (by simp [ho]))
    obtain ⟨db', inserted, hpersist⟩ :=
      persist_succeeds next (hrange observed (by simp)) (h observed (by simp))
    exact ⟨db', persistAll_append.mpr ⟨next, inserted, hnext, hpersist⟩⟩

theorem persistAll_isSome_iff {events : List (ObservedEvent Pubkey)}
    (h : db.persistAll events = .ok db') (id : EventId) :
    (db'.protocolEvents id).isSome ↔
      (db.protocolEvents id).isSome ∨ ∃ observed ∈ events, observed.id = id := by
  induction events using List.reverseRecOn generalizing db' with
  | nil =>
    cases h
    simp
  | append_singleton events observed ih =>
    obtain ⟨next, _, hnext, hpersist⟩ := persistAll_append.mp h
    rw [(persist_ok hpersist).isSome_iff, ih hnext]
    simp only [List.mem_append, List.mem_singleton, or_and_right, exists_or, exists_eq_left,
      or_assoc]

end Database

end IronVault.Observer
