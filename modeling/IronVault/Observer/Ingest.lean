import Mathlib.Tactic.DeriveTraversable
import IronVault.Observer.Codec
import IronVault.Observer.Impl.Schema
import IronVault.Observer.ReadModel

/-!
This module contains that the observer can decode and store every event that the program emits.
-/

namespace IronVault

deriving instance Functor for ProtocolInitialized
deriving instance Functor for ProtocolPauseUpdated
deriving instance Functor for EscrowCreated
deriving instance Functor for EscrowReleased
deriving instance Functor for EscrowRefunded
deriving instance Functor for VaultCreated
deriving instance Functor for VaultAuthorityUpdated
deriving instance Functor for VaultPauseUpdated
deriving instance Functor for VaultAssetRegistered
deriving instance Functor for VaultDeposit
deriving instance Functor for VaultWithdrawal
deriving instance Functor for RoleGranted
deriving instance Functor for RoleRevoked
deriving instance Functor for VaultLimitsUpdated
deriving instance Functor for WithdrawalRequested
deriving instance Functor for WithdrawalExecuted
deriving instance Functor for WithdrawalCancelled
deriving instance Functor for IronVaultEvent

namespace Observer

section Storable

variable {Pubkey Pubkey' : Type} (f : Pubkey → Pubkey')

theorem version_map (event : IronVaultEvent Pubkey) : (f <$> event).version = event.version := by
  cases event <;> rfl

theorem Storable.map {event : IronVaultEvent Pubkey} (h : Storable event) :
    Storable (f <$> event) := by
  refine ⟨?_, ?_, ?_, ?_⟩
  . rw [version_map]
    exact h.version_lt
  . rw [version_map]
    exact h.version_pos
  . intro e heq
    cases event with
    | escrowCreated created =>
      cases heq
      exact h.escrow_amount rfl
    | _ => cases heq
  . intro e heq
    cases event with
    | withdrawalRequested requested =>
      cases heq
      exact h.withdrawal_amount rfl
    | _ => cases heq

end Storable

section Schema

variable {Pubkey : Type}

@[simp]
theorem fits_text (value : String) : SqlType.text.fits (.text value : SqlValue Pubkey) = true := rfl

@[simp]
theorem fits_pubkey (key : Pubkey) : SqlType.text.fits (.pubkey key) = true := rfl

@[simp]
theorem fits_boolean (value : Bool) :
    SqlType.boolean.fits (.boolean value : SqlValue Pubkey) = true := rfl

@[simp]
theorem fits_numeric (n : UInt64) :
    (SqlType.numeric 20).fits (.number n.toNat : SqlValue Pubkey) = true := by
  have hlt := n.toNat_lt
  simp only [SqlType.fits, Int.natAbs_natCast, decide_eq_true_iff]
  omega

@[simp]
theorem fits_bigint (n : Int64) : SqlType.bigint.fits (.number n.toInt : SqlValue Pubkey) = true := by
  have hle := n.le_toInt
  have hlt := n.toInt_lt
  simp only [SqlType.fits, Bool.and_eq_true, decide_eq_true_iff]
  omega

variable {observed : ObservedEvent Pubkey}

theorem accepted_append {table : List Column} {values values' : List (String × SqlValue Pubkey)} :
    (SqlWrite.mk table (values ++ values')).accepted
      = ((SqlWrite.mk table values).accepted && (SqlWrite.mk table values').accepted) := by
  simp [SqlWrite.accepted]

theorem lastValues_accepted (h : observed.InRange) {table : List Column}
    (htable : table ∈ [escrowsTable, vaultsTable, withdrawalRequestsTable]) :
    (SqlWrite.mk table observed.lastValues).accepted = true := by
  have hslot := h.slot_lt
  have hinstruction := h.instructionIndex_lt
  have hevent := h.eventIndex_lt
  simp only [List.mem_cons, List.not_mem_nil, or_false] at htable
  rcases htable with rfl | rfl | rfl <;>
  . simp [SqlWrite.accepted, escrowsTable, vaultsTable, withdrawalRequestsTable, lastColumns,
      ObservedEvent.lastValues, ObservedEvent.slotValue, ObservedEvent.instructionValue,
      ObservedEvent.eventIndexValue, Column.accepts, SqlType.fits, Check.holds]
    omega

theorem checkpointWrite_accepted (h : observed.InRange) : observed.checkpointWrite.accepted = true := by
  have hslot := h.slot_lt
  have hinstruction := h.instructionIndex_lt
  have hevent := h.eventIndex_lt
  simp [SqlWrite.accepted, syncCheckpointTable, ObservedEvent.checkpointWrite,
    ObservedEvent.slotValue, ObservedEvent.instructionValue, ObservedEvent.eventIndexValue,
    Column.accepts, SqlType.fits, Check.holds]
  omega

theorem eventWrite_accepted (h : observed.InRange) (hversion : observed.event.version.toNat < 2 ^ 15) :
    observed.eventWrite.accepted = true ↔ 0 < observed.event.version := by
  have hslot := h.slot_lt
  have hinstruction := h.instructionIndex_lt
  have hevent := h.eventIndex_lt
  rw [UInt16.lt_iff_toNat_lt]
  unfold ObservedEvent.eventWrite ObservedEvent.blockTimeValue
  cases observed.blockTime with
  | none =>
    simp [SqlWrite.accepted, protocolEventsTable, ObservedEvent.slotValue,
      ObservedEvent.instructionValue, ObservedEvent.eventIndexValue, Column.accepts, SqlType.fits,
      Check.holds]
    omega
  | some blockTime =>
    have hle := blockTime.le_toInt
    have hlt := blockTime.toInt_lt
    simp [SqlWrite.accepted, protocolEventsTable, ObservedEvent.slotValue,
      ObservedEvent.instructionValue, ObservedEvent.eventIndexValue, Column.accepts, SqlType.fits,
      Check.holds]
    omega

theorem projectionWrite_accepted (h : observed.InRange) :
    (∀ write ∈ observed.projectionWrite, write.accepted = true) ↔
      (∀ e, observed.event = .escrowCreated e → 0 < e.amount) ∧
        ∀ e, observed.event = .withdrawalRequested e → 0 < e.amount := by
  have hescrows := lastValues_accepted h
    (show escrowsTable ∈ [escrowsTable, vaultsTable, withdrawalRequestsTable] by simp)
  have hvaults := lastValues_accepted h
    (show vaultsTable ∈ [escrowsTable, vaultsTable, withdrawalRequestsTable] by simp)
  have hrequests := lastValues_accepted h
    (show withdrawalRequestsTable ∈ [escrowsTable, vaultsTable, withdrawalRequestsTable] by simp)
  unfold ObservedEvent.projectionWrite
  cases hevent : observed.event with
  | escrowCreated e =>
    simp only [Option.mem_def, Option.some.injEq, forall_eq', accepted_append, hescrows]
    simp [SqlWrite.accepted, escrowsTable, Column.accepts, Check.holds, UInt64.lt_iff_toNat_lt]
  | withdrawalRequested e =>
    simp only [Option.mem_def, Option.some.injEq, forall_eq', accepted_append, hrequests]
    simp [SqlWrite.accepted, withdrawalRequestsTable, Column.accepts, Check.holds,
      UInt64.lt_iff_toNat_lt]
  | escrowReleased e | escrowRefunded e =>
    simp only [Option.mem_def, Option.some.injEq, forall_eq', accepted_append, hescrows,
      ObservedEvent.updateEscrowStatusWrite]
    simp [SqlWrite.accepted, escrowsTable, Column.accepts, Check.holds]
  | withdrawalExecuted e | withdrawalCancelled e =>
    simp only [Option.mem_def, Option.some.injEq, forall_eq', accepted_append, hrequests,
      ObservedEvent.updateWithdrawalStatusWrite]
    simp [SqlWrite.accepted, withdrawalRequestsTable, Column.accepts, Check.holds]
  | vaultCreated e | vaultAuthorityUpdated e | vaultPauseUpdated e =>
    simp only [Option.mem_def, Option.some.injEq, forall_eq', accepted_append, hvaults]
    simp [SqlWrite.accepted, vaultsTable, Column.accepts, Check.holds]
  | _ => simp

end Schema

namespace Database

variable {Pubkey : Type} [DecidableEq Pubkey] {db : Database Pubkey} {observed : ObservedEvent Pubkey}

theorem applyProjection_amounts {db' : Database Pubkey} {position : Position}
    (h : db.applyProjection observed position = .ok db') :
    (∀ e, observed.event = .escrowCreated e → 0 < e.amount) ∧
      ∀ e, observed.event = .withdrawalRequested e → 0 < e.amount := by
  unfold applyProjection at h
  cases hevent : observed.event with
  | escrowCreated e =>
    simp only [hevent, Except.bind_eq_ok_iff, require_eq_ok] at h
    obtain ⟨-, hamount, -⟩ := h
    simpa using hamount
  | withdrawalRequested e =>
    simp only [hevent, Except.bind_eq_ok_iff, require_eq_ok] at h
    obtain ⟨-, hamount, -⟩ := h
    simpa using hamount
  | _ => simp

/--
`persist` succeeds exactly if the conversions do and the tables accept what it writes.
-/
theorem persist_succeeds_iff :
    (∃ db' inserted, db.persist observed = .ok (db', inserted)) ↔
      observed.InRange ∧ observed.event.version.toNat < 2 ^ 15 ∧
        ∀ write ∈ db.writes observed, write.accepted = true := by
  constructor
  . rintro ⟨db', inserted, h⟩
    unfold persist at h
    simp only [Except.bind_eq_ok_iff, require_eq_ok, exists_const] at h
    obtain ⟨hslot, hinstruction, hindex, hversion, hpos, h⟩ := h
    have hrange : observed.InRange := ⟨hslot, hinstruction, hindex⟩
    have hevent := (eventWrite_accepted hrange hversion).mpr hpos
    have hcheckpoint := checkpointWrite_accepted hrange
    refine ⟨hrange, hversion, ?_⟩
    unfold writes
    cases hstored : db.protocolEvents observed.id with
    | some row => simp [hevent, hcheckpoint]
    | none =>
      simp only [hstored, Except.bind_eq_ok_iff] at h
      obtain ⟨projected, happly, -⟩ := h
      have hprojection := (projectionWrite_accepted hrange).mpr (applyProjection_amounts happly)
      intro write hwrite
      simp only [List.cons_append, List.mem_cons, List.mem_append, Option.mem_toList,
        List.not_mem_nil, or_false] at hwrite
      rcases hwrite with rfl | hwrite | rfl
      . exact hevent
      . exact hprojection write hwrite
      . exact hcheckpoint
  . rintro ⟨hrange, hversion, hwrites⟩
    have hpos : 0 < observed.event.version := by
      rw [← eventWrite_accepted hrange hversion]
      apply hwrites
      unfold writes
      cases db.protocolEvents observed.id <;> simp
    unfold persist
    simp only [Except.bind_eq_ok_iff, require_eq_ok, exists_const, exists_and_left]
    refine ⟨hrange.slot_lt, hrange.instructionIndex_lt, hrange.eventIndex_lt, hversion, hpos, ?_⟩
    cases hstored : db.protocolEvents observed.id with
    | some row => exact ⟨_, _, rfl⟩
    | none =>
      have hprojection : ∀ write ∈ observed.projectionWrite, write.accepted = true := by
        intro write hwrite
        apply hwrites
        unfold writes
        rw [hstored]
        simp only [List.cons_append, List.mem_cons, List.mem_append, Option.mem_toList]
        exact .inr (.inl hwrite)
      have hamounts := (projectionWrite_accepted hrange).mp hprojection
      have hstorable : Storable observed.event :=
        ⟨hversion, hpos, hamounts.1 _, hamounts.2 _⟩
      obtain ⟨projected, happly⟩ :=
        applyProjection_succeeds (db.store observed) observed.position hstorable
      refine ⟨projected.updateCheckpoint observed observed.position, true, ?_⟩
      simp only [Except.bind_eq_ok_iff, Except.pure_eq_ok_iff, Prod.mk.injEq]
      exact ⟨projected, happly, rfl, trivial⟩

end Database

section

variable {Pubkey : Type} [DecidableEq Pubkey] [Solana Pubkey]

/--
No event that the program emits stops the observer. `toBytes` gives the bytes of a key.
-/
theorem emitted_event_ingested {tr : List (Transition (State Pubkey) (Action Pubkey))}
    {s : State Pubkey} (hrun : History tr s) {event : IronVaultEvent Pubkey}
    (hevent : event ∈ emittedEvents tr) (toBytes : Pubkey → Events.Pubkey)
    {sha256 : String → Vector UInt8 32}
    (hdistinct : (Events.branches.map fun b => Events.discriminator sha256 b.1).Nodup)
    {observed : ObservedEvent Events.Pubkey} (hobserved : observed.event = toBytes <$> event)
    (hslot : observed.slot.toNat < 2 ^ 63)
    (hinstruction : observed.id.instructionIndex.toNat < 2 ^ 31)
    (hindex : observed.id.eventIndex.toNat < 2 ^ 31) (db : Database Events.Pubkey) :
    Events.IronVaultEvent.decode sha256 ((toBytes <$> event).data sha256)
      = .ok (.ofProgram (toBytes <$> event)) ∧
    observed.event.version.toNat < 2 ^ 15 ∧
    (∀ write ∈ db.writes observed, write.accepted = true) ∧
    ∃ db' inserted, db.persist observed = .ok (db', inserted) := by
  have hstorable : Storable observed.event := by
    rw [hobserved]
    exact (History.storable hrun hevent).map toBytes
  have hpersist := db.persist_succeeds ⟨hslot, hinstruction, hindex⟩ hstorable
  have hwrites := (Database.persist_succeeds_iff.mp hpersist).2.2
  refine ⟨?_, hstorable.version_lt, hwrites, hpersist⟩
  exact (Events.codec_agrees sha256 hdistinct).decode_data (toBytes <$> event)

end

end Observer

namespace Scenario

open Observer

def keyBytes : Key → Events.Pubkey
  | .wallet n => .ofFn fun _ => .ofNat n
  | .protocol => .ofFn fun i => .ofNat (protocolBytes.getD i 0)
  | .vault _ _ => .ofFn fun i => .ofNat (vaultBytes.getD i 0)
  | _ => .replicate 32 0

theorem emitted_event_ingested_paused :
    ∃ db' inserted, (Database.empty : Database Events.Pubkey).persist
      ⟨⟨"pause", 0, 0⟩, 3, some 1700000000, keyBytes <$> vaultPauseUpdated true⟩
        = .ok (db', inserted) := by
  have hingested := emitted_event_ingested history_paused
    (show vaultPauseUpdated true ∈ emittedEvents (trace paused) by decide +kernel) keyBytes
    (show (Events.branches.map fun b => Events.discriminator Events.eventDigest b.1).Nodup by
      decide +kernel)
    (show (ObservedEvent.mk ⟨"pause", 0, 0⟩ 3 (some 1700000000)
      (keyBytes <$> vaultPauseUpdated true)).event = _ from rfl)
    (by decide) (by decide) (by decide) Database.empty
  exact hingested.2.2.2

end Scenario

end IronVault
