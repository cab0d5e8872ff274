import IronVault.Observer.Lemmas.Chain
import IronVault.Program.Symbolic

/-!
This module contains when the read model equals the chain. The guard of an update compares the slot,
the instruction index and the event index of two events, but two transactions of one slot are only
told apart by their signatures. The later of them can be taken for the older one.
-/

namespace IronVault.Observer

variable {Pubkey : Type} [DecidableEq Pubkey] [Solana Pubkey]

structure ReadModel (db : Database Pubkey) (s : State Pubkey) : Prop where
  escrow (key : Pubkey) :
    (db.escrows key).map (fun row => row.columns.status) = (s.escrow key).map Escrow.status
  vault (key : Pubkey) :
    (db.vaults key).map (fun row => (row.columns.authority, row.columns.paused))
      = (s.vault key).map fun vault => (vault.authority, vault.paused)
  withdrawalRequest (key : Pubkey) :
    (db.withdrawalRequests key).map (fun row => row.columns.status)
      = (s.withdrawalRequest key).map WithdrawalRequest.status

def ObservedEvent.withoutBlockTime (observed : ObservedEvent Pubkey) : ObservedEvent Pubkey where
  id := observed.id
  slot := observed.slot
  blockTime := none
  event := observed.event

def DeliversOnly (deliveries chain : List (ObservedEvent Pubkey)) : Prop :=
  ∀ d ∈ deliveries, ∃ e ∈ chain, d.withoutBlockTime = e.withoutBlockTime

structure DeliversInOrder (deliveries chain : List (ObservedEvent Pubkey)) : Prop where
  only : DeliversOnly deliveries chain
  inOrder : (firstDeliveries deliveries).map ObservedEvent.withoutBlockTime
    = chain.map ObservedEvent.withoutBlockTime

/--
If two transactions of one slot write the same row, then the later one has the higher instruction
and event index.
-/
def SlotOrdered (chain : List (ObservedEvent Pubkey)) : Prop :=
  chain.Pairwise fun e e' =>
    e.id.transactionSignature ≠ e'.id.transactionSignature → e.slot = e'.slot →
      (writtenRow e.event).isSome → writtenRow e.event = writtenRow e'.event → e.id.Before e'.id

instance {chain : List (ObservedEvent Pubkey)} : Decidable (SlotOrdered chain) :=
  inferInstanceAs (Decidable (List.Pairwise _ chain))

section

variable {Columns View : Type} (t : Projection Pubkey Columns View) (key : Pubkey)

theorem Projection.writes_congr {deliveries chain : List (ObservedEvent Pubkey)}
    (h : deliveries.map ObservedEvent.withoutBlockTime = chain.map ObservedEvent.withoutBlockTime) :
    deliveries.filterMap (t.write key) = chain.filterMap (t.write key) := by
  have hmap (events : List (ObservedEvent Pubkey)) :
      (events.map ObservedEvent.withoutBlockTime).filterMap (t.write key)
        = events.filterMap (t.write key) := by
    rw [List.filterMap_map]
    rfl
  rw [← hmap deliveries, h, hmap]

theorem Projection.writes_ops (chain : List (ObservedEvent Pubkey)) :
    (chain.filterMap (t.write key)).map Register.Write.op
      = t.ops key (chain.map ObservedEvent.event) := by
  unfold Projection.ops
  rw [List.map_filterMap, List.filterMap_map]
  apply List.filterMap_congr
  intro observed _
  unfold Projection.write
  rw [Option.map_map]
  exact Option.map_id'

theorem Projection.writtenRow_of_write {observed : ObservedEvent Pubkey}
    {w : Register.Write Position Columns} (h : t.write key observed = some w) :
    writtenRow observed.event = some (t.row key) ∧ w.pos = observed.position := by
  unfold Projection.write at h
  rw [Option.map_eq_some_iff] at h
  obtain ⟨op, hop, rfl⟩ := h
  refine ⟨?_, rfl⟩
  unfold opAt at hop
  rw [Option.bind_eq_some_iff] at hop
  obtain ⟨⟨k, op'⟩, heq, hop⟩ := hop
  dsimp only at hop
  split at hop
  . next hk =>
    rw [← hk]
    exact t.row_eq heq
  . simp at hop

theorem Projection.writes_pairwise {settings : ObserverSettings Pubkey}
    {tr : List (Transition (State Pubkey) (Action Pubkey))} {txs : List FinalizedTransaction}
    (h : Finalized settings tr txs) (hordered : SlotOrdered (chainEvents settings txs)) :
    ((chainEvents settings txs).filterMap (t.write key)).Pairwise fun w w' => w.pos < w'.pos := by
  rw [List.pairwise_filterMap]
  apply (h.position_pairwise.and hordered).imp
  rintro e e' ⟨hposition, hbefore⟩ w hw w' hw'
  obtain ⟨hrow, hpos⟩ := t.writtenRow_of_write key hw
  obtain ⟨hrow', hpos'⟩ := t.writtenRow_of_write key hw'
  rw [hpos, hpos']
  cases hposition with
  | inl hlt => exact hlt
  | inr hslot =>
    apply ObservedEvent.position_lt_of_before hslot.2
    exact hbefore hslot.1 hslot.2 (by simp [hrow]) (by rw [hrow, hrow'])

theorem Projection.rows_eq_account {settings : ObserverSettings Pubkey}
    {tr : List (Transition (State Pubkey) (Action Pubkey))} {s : State Pubkey}
    {txs : List FinalizedTransaction} {deliveries : List (ObservedEvent Pubkey)}
    {db : Database Pubkey} (hrun : History tr s) (h : Finalized settings tr txs)
    (hordered : SlotOrdered (chainEvents settings txs))
    (hdelivers : DeliversInOrder deliveries (chainEvents settings txs))
    (hpersist : Database.empty.persistAll deliveries = .ok db) :
    (t.rows db key).map (fun row => t.view row.columns) = t.account s key := by
  have hrows := t.rows_persistAll key hpersist
  rw [t.writes_congr key hdelivers.inOrder] at hrows
  have hvalue := Register.run_of_pairwise (t.writes_pairwise key h hordered)
  rw [← hrows, t.writes_ops, h.events_eq] at hvalue
  rw [← (t.account_history key hrun).2, ← hvalue, Option.map_map, Option.map_map]
  rfl

end

theorem Finalized.persistAll_succeeds {settings : ObserverSettings Pubkey}
    {tr : List (Transition (State Pubkey) (Action Pubkey))} {s : State Pubkey}
    {txs : List FinalizedTransaction} {deliveries : List (ObservedEvent Pubkey)}
    (hrun : History tr s) (h : Finalized settings tr txs)
    (honly : DeliversOnly deliveries (chainEvents settings txs)) :
    ∃ db, Database.empty.persistAll deliveries = .ok db := by
  apply Database.persistAll_succeeds
  . intro d hd
    obtain ⟨e, he, heq⟩ := honly d hd
    simp only [ObservedEvent.withoutBlockTime, ObservedEvent.mk.injEq] at heq
    obtain ⟨hslot, hinstruction, hevent⟩ := h.inRange he
    rw [← heq.1] at hinstruction hevent
    rw [← heq.2.1] at hslot
    exact ⟨hslot, hinstruction, hevent⟩
  . intro d hd
    obtain ⟨e, he, heq⟩ := honly d hd
    simp only [ObservedEvent.withoutBlockTime, ObservedEvent.mk.injEq] at heq
    rw [heq.2.2.2]
    apply History.storable hrun
    rw [← h.events_eq]
    exact List.mem_map_of_mem he

theorem read_model_eq_chain {settings : ObserverSettings Pubkey}
    {tr : List (Transition (State Pubkey) (Action Pubkey))} {s : State Pubkey}
    {txs : List FinalizedTransaction} {deliveries : List (ObservedEvent Pubkey)}
    (hrun : History tr s) (h : Finalized settings tr txs)
    (hdelivers : DeliversInOrder deliveries (chainEvents settings txs))
    (hordered : SlotOrdered (chainEvents settings txs)) :
    ∃ db, Database.empty.persistAll deliveries = .ok db ∧ ReadModel db s := by
  obtain ⟨db, hpersist⟩ := h.persistAll_succeeds hrun hdelivers.only
  refine ⟨db, hpersist, ?_, ?_, ?_⟩
  . intro key
    exact Projection.escrows.rows_eq_account key hrun h hordered hdelivers hpersist
  . intro key
    exact Projection.vaults.rows_eq_account key hrun h hordered hdelivers hpersist
  . intro key
    exact Projection.withdrawalRequests.rows_eq_account key hrun h hordered hdelivers hpersist

omit [DecidableEq Pubkey] [Solana Pubkey] in
theorem deliversInOrder_self {chain : List (ObservedEvent Pubkey)}
    (h : (firstDeliveries chain).map ObservedEvent.withoutBlockTime
      = chain.map ObservedEvent.withoutBlockTime) : DeliversInOrder chain chain :=
  ⟨fun d hd => ⟨d, hd, rfl⟩, h⟩

end IronVault.Observer

namespace IronVault.Scenario

open Observer

def base64Digit (n : Nat) : Char :=
  if n < 26 then Char.ofNat (n + 65)
  else if n < 52 then Char.ofNat (n + 71)
  else if n < 62 then Char.ofNat (n - 4)
  else if n = 62 then '+'
  else '/'

def base64 : List Nat → Text
  | a :: b :: c :: bytes =>
    base64Digit (a / 4) :: base64Digit (a % 4 * 16 + b / 16) ::
      base64Digit (b % 16 * 4 + c / 64) :: base64Digit (c % 64) :: base64 bytes
  | [a, b] => [base64Digit (a / 4), base64Digit (a % 4 * 16 + b / 16), base64Digit (b % 16 * 4), '=']
  | [a] => [base64Digit (a / 4), base64Digit (a % 4 * 16), '=', '=']
  | [] => []

def protocolBytes : List Nat := [
    192, 255, 246, 7, 242, 135, 94, 122, 197, 26, 8, 223, 49, 240, 34, 26, 119, 86, 212, 174,
    88, 213, 59, 104, 140, 142, 72, 135, 198, 230, 131, 199
  ]

def vaultBytes : List Nat := [
    126, 110, 165, 147, 174, 154, 131, 104, 234, 161, 125, 18, 34, 227, 161, 55, 36, 218, 58,
    148, 131, 155, 164, 18, 235, 78, 226, 96, 200, 175, 36, 62
  ]

-- The data lines below are the events as the program encodes them. The bytes of a wallet are all the
-- same.
def walletBytes (n : Nat) : List Nat :=
  .replicate 32 n

def dataLine (discriminator fields : List Nat) : Text :=
  "Program data: ".toList ++ base64 (discriminator ++ [1, 0] ++ fields)

def protocolInitializedLine : Text :=
  dataLine [173, 122, 168, 254, 9, 118, 76, 132]
    (protocolBytes ++ walletBytes 3 ++ walletBytes 4)

def vaultCreatedLine : Text :=
  dataLine [117, 25, 120, 254, 75, 236, 78, 115]
    (vaultBytes ++ walletBytes 5 ++ walletBytes 5 ++ walletBytes 6 ++ .replicate 8 0)

def vaultPauseUpdatedLine (paused : Bool) : Text :=
  dataLine [192, 253, 69, 1, 210, 184, 95, 50]
    (vaultBytes ++ walletBytes 5 ++ [if paused then 1 else 0])

def programId : Text :=
  "2UWmTuefm4gqbfuZP36NSJMMSKLM4Rbop25jf1uBZAu1".toList

def settings : ObserverSettings Key where
  programId
  decodeProgramData log :=
    if log = protocolInitializedLine then
      .ok (some protocolInitialized)
    else if log = vaultCreatedLine then
      .ok (some vaultCreated)
    else if log = vaultPauseUpdatedLine true then
      .ok (some (vaultPauseUpdated true))
    else if log = vaultPauseUpdatedLine false then
      .ok (some (vaultPauseUpdated false))
    else
      .error .unknownDiscriminator

def transaction (signature : String) (slot : UInt64) (budget : Nat) (line : Text) :
    FinalizedTransaction where
  signature
  slot
  blockTime := some 1700000000
  err := false
  logs :=
    (List.replicate budget ["Program ComputeBudget invoke [1]".toList,
      "Program ComputeBudget success".toList]).flatten ++
    ["Program ".toList ++ programId ++ " invoke [1]".toList, line,
      "Program ".toList ++ programId ++ " success".toList]

def paused : List (Instruction Key × Int64) := [
  (.initializeProtocol ⟨admin, .protocol⟩ admin protocolGuardian, 0),
  (.createVault ⟨authority, .protocol, vault⟩ 0 guardian, 1),
  (.pauseVault ⟨authority, vault⟩, 2)
]

def unpaused : List (Instruction Key × Int64) :=
  paused ++ [(.unpauseVault ⟨authority, vault⟩, 2)]

def pausedTransactions : List FinalizedTransaction := [
  transaction "initialize" 1 0 protocolInitializedLine,
  transaction "create" 2 0 vaultCreatedLine,
  transaction "pause" 3 0 (vaultPauseUpdatedLine true)
]

/--
The transactions of the run `unpaused`. The vault is unpaused in the slot in which it is paused, by
a transaction with `budget` instructions before.
-/
def unpausedTransactions (budget : Nat) : List FinalizedTransaction :=
  pausedTransactions ++ [transaction "unpause" 3 budget (vaultPauseUpdatedLine false)]

theorem history_paused : History (trace paused) (start.final paused) :=
  history_trace paused (by decide +kernel)

theorem history_unpaused : History (trace unpaused) (start.final unpaused) :=
  history_trace unpaused (by decide +kernel)

theorem finalized_paused : Finalized settings (trace paused) pausedTransactions := by
  constructor <;> decide +kernel

theorem finalized_unpaused_zero :
    Finalized settings (trace unpaused) (unpausedTransactions 0) := by
  constructor <;> decide +kernel

theorem finalized_unpaused_one :
    Finalized settings (trace unpaused) (unpausedTransactions 1) := by
  constructor <;> decide +kernel

end IronVault.Scenario

namespace IronVault.Observer

open Scenario in
theorem read_model_ne_chain :
    ¬ ∀ (settings : ObserverSettings Key) (tr : List (Transition (State Key) (Action Key)))
      (s : State Key) (txs : List FinalizedTransaction) (deliveries : List (ObservedEvent Key))
      (db : Database Key), History tr s → Finalized settings tr txs →
      DeliversInOrder deliveries (chainEvents settings txs) →
      Database.empty.persistAll deliveries = .ok db → ReadModel db s := by
  intro h
  have hrun := history_unpaused
  have hfinalized := finalized_unpaused_zero
  have hdelivers : DeliversInOrder (chainEvents settings (unpausedTransactions 0))
      (chainEvents settings (unpausedTransactions 0)) := deliversInOrder_self (by decide +kernel)
  obtain ⟨db, hpersist⟩ := hfinalized.persistAll_succeeds hrun hdelivers.only
  have hmodel := (h _ _ _ _ _ _ hrun hfinalized hdelivers hpersist).vault vault
  -- the row still shows the vault as paused
  have hrow : ((Database.empty.persistAll (chainEvents settings (unpausedTransactions 0))).toOption.bind
      fun db => (db.vaults vault).map fun row => (row.columns.authority, row.columns.paused))
        = some (authority, true) := by decide +kernel
  have haccount : ((start.final unpaused).vault vault).map (fun v => (v.authority, v.paused))
      = some (authority, false) := by decide +kernel
  rw [hpersist] at hrow
  change (db.vaults vault).map _ = _ at hrow
  rw [hrow, haccount] at hmodel
  simp at hmodel

open Scenario in
theorem read_model_eq_chain_unpaused :
    ∃ db, Database.empty.persistAll (chainEvents settings (unpausedTransactions 1)) = .ok db ∧
      ReadModel db (start.final unpaused) :=
  read_model_eq_chain history_unpaused finalized_unpaused_one
    (deliversInOrder_self (by decide +kernel)) (by decide +kernel)

end IronVault.Observer
