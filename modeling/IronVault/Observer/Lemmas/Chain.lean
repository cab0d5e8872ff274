import IronVault.Observer.Impl.Rpc
import IronVault.Observer.Lemmas.Logs
import IronVault.Observer.Lemmas.Projection

/-!
This module contains the events of the finalized transactions of a run, stamped by `extract_events`,
and the order of their positions.
-/

namespace IronVault.Observer

variable {Pubkey : Type}

section Events

variable (settings : ObserverSettings Pubkey) {signature : String} {slot : UInt64}
  {blockTime : Option Int64} {logs : List Text}

def decodeLine (slot : UInt64) (blockTime : Option Int64) (line : EventId × Text) :
    Option (ObservedEvent Pubkey) :=
  match settings.decodeProgramData line.2 with
  | .ok (some event) => some ⟨line.1, slot, blockTime, event⟩
  | _ => none

theorem decodeLine_eq_some {line : EventId × Text} {observed : ObservedEvent Pubkey}
    (h : decodeLine settings slot blockTime line = some observed) :
    observed.id = line.1 ∧ observed.slot = slot := by
  unfold decodeLine at h
  split at h
  . rw [Option.some.injEq] at h
    rw [← h]
    exact ⟨rfl, rfl⟩
  . simp at h

theorem decodableEvents_eq :
    settings.decodableEvents signature slot blockTime logs
      = (LogScan.initial.dataLines settings.programId signature logs).filterMap
        (decodeLine settings slot blockTime) := by
  unfold ObserverSettings.decodableEvents ObserverSettings.extractEvents
  rw [List.filterMap_map]
  apply List.filterMap_congr
  intro line _
  unfold decodeLine
  dsimp only [Function.comp_apply]
  cases settings.decodeProgramData line.2 with
  | error e => rfl
  | ok event => cases event <;> rfl

theorem mem_decodableEvents {observed : ObservedEvent Pubkey}
    (h : observed ∈ settings.decodableEvents signature slot blockTime logs) :
    observed.slot = slot ∧
      ∃ log, (observed.id, log) ∈ LogScan.initial.dataLines settings.programId signature logs := by
  rw [decodableEvents_eq, List.mem_filterMap] at h
  obtain ⟨line, hmem, heq⟩ := h
  obtain ⟨hid, hslot⟩ := decodeLine_eq_some settings heq
  exact ⟨hslot, line.2, by rw [hid]; exact hmem⟩

theorem decodableEvents_signature {observed : ObservedEvent Pubkey}
    (h : observed ∈ settings.decodableEvents signature slot blockTime logs) :
    observed.id.transactionSignature = signature := by
  obtain ⟨-, log, hmem⟩ := mem_decodableEvents settings h
  exact LogScan.dataLines_signature hmem

theorem decodableEvents_lt {observed : ObservedEvent Pubkey} (hlogs : logs.length < 2 ^ 31)
    (h : observed ∈ settings.decodableEvents signature slot blockTime logs) :
    observed.id.instructionIndex.toNat < 2 ^ 31 ∧ observed.id.eventIndex.toNat < 2 ^ 31 := by
  obtain ⟨-, log, hmem⟩ := mem_decodableEvents settings h
  have hspec := (LogScan.dataLines_spec (LogScan.Room.initial hlogs)).1 _ hmem
  exact ⟨hspec.1, hspec.2.1⟩

theorem decodableEvents_pairwise (hlogs : logs.length < 2 ^ 31) :
    (settings.decodableEvents signature slot blockTime logs).Pairwise
      fun e e' => e.id.Before e'.id := by
  rw [decodableEvents_eq, List.pairwise_filterMap]
  apply (LogScan.dataLines_spec (LogScan.Room.initial hlogs)).2.imp
  intro x y hbefore e he e' he'
  rw [(decodeLine_eq_some settings he).1, (decodeLine_eq_some settings he').1]
  exact hbefore

end Events

theorem ObservedEvent.position_lt_of_slot_lt {e e' : ObservedEvent Pubkey} (h : e.slot < e'.slot) :
    e.position < e'.position := by
  rw [Position.lt_iff]
  exact .inl (UInt64.lt_iff_toNat_lt.mp h)

theorem ObservedEvent.position_lt_of_before {e e' : ObservedEvent Pubkey} (hslot : e.slot = e'.slot)
    (h : e.id.Before e'.id) : e.position < e'.position := by
  rw [Position.lt_iff]
  refine .inr ⟨congrArg UInt64.toNat hslot, ?_⟩
  cases h with
  | inl hlt => exact .inl (UInt32.lt_iff_toNat_lt.mp hlt)
  | inr heq => exact .inr ⟨congrArg UInt32.toNat heq.1, UInt32.lt_iff_toNat_lt.mp heq.2⟩

def chainEvents (settings : ObserverSettings Pubkey) (txs : List FinalizedTransaction) :
    List (ObservedEvent Pubkey) :=
  txs.flatMap (·.events settings)

variable [DecidableEq Pubkey] [Solana Pubkey]

/--
The successful transactions of a run in chain order. Their logs show the events that the run emits,
a slot and the number of lines of a log fit the columns of the database.
-/
structure Finalized (settings : ObserverSettings Pubkey)
    (tr : List (Transition (State Pubkey) (Action Pubkey))) (txs : List FinalizedTransaction) :
    Prop where
  distinct : DistinctSignatures txs
  slot_le : txs.Pairwise fun tx tx' => tx.slot ≤ tx'.slot
  slot_lt : ∀ tx ∈ txs, tx.slot.toNat < 2 ^ 63
  logs_lt : ∀ tx ∈ txs, tx.logs.length < 2 ^ 31
  events_eq : (chainEvents settings txs).map ObservedEvent.event = emittedEvents tr

namespace Finalized

variable {settings : ObserverSettings Pubkey}
  {tr : List (Transition (State Pubkey) (Action Pubkey))} {txs : List FinalizedTransaction}

theorem inRange (h : Finalized settings tr txs) {observed : ObservedEvent Pubkey}
    (hmem : observed ∈ chainEvents settings txs) : observed.InRange := by
  unfold chainEvents at hmem
  obtain ⟨tx, htx, hmem⟩ := List.mem_flatMap.mp hmem
  have hlt := decodableEvents_lt settings (h.logs_lt tx htx) hmem
  refine ⟨?_, hlt.1, hlt.2⟩
  rw [(mem_decodableEvents settings hmem).1]
  exact h.slot_lt tx htx

theorem position_pairwise (h : Finalized settings tr txs) :
    (chainEvents settings txs).Pairwise fun e e' =>
      e.position < e'.position ∨
        e.id.transactionSignature ≠ e'.id.transactionSignature ∧ e.slot = e'.slot := by
  -- Positions can only be out of order between two transactions of one slot.
  unfold chainEvents
  rw [List.pairwise_flatMap]
  constructor
  . intro tx htx
    have hpairwise : (tx.events settings).Pairwise fun e e' => e.id.Before e'.id :=
      decodableEvents_pairwise settings (h.logs_lt tx htx)
    apply hpairwise.imp_of_mem
    intro e e' he he' hbefore
    left
    apply ObservedEvent.position_lt_of_before _ hbefore
    rw [(mem_decodableEvents settings he).1, (mem_decodableEvents settings he').1]
  . apply (h.slot_le.and h.distinct).imp
    intro tx tx' hle e he e' he'
    rw [decodableEvents_signature settings he, decodableEvents_signature settings he']
    have hslot := (mem_decodableEvents settings he).1
    have hslot' := (mem_decodableEvents settings he').1
    by_cases heq : tx.slot = tx'.slot
    . exact .inr ⟨hle.2, by rw [hslot, hslot', heq]⟩
    . left
      apply ObservedEvent.position_lt_of_slot_lt
      rw [hslot, hslot']
      exact UInt64.lt_of_le_of_ne hle.1 heq

end Finalized

end IronVault.Observer
