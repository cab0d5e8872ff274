import IronVault.Program.EscrowLifecycle

/-!
This module contains that the balance of every asset can be audited from the events alone: what is
under custody is what the events say was deposited, less what they say was withdrawn, plus what
others paid in without going through `deposit`.
-/

namespace IronVault

variable {Pubkey : Type} [DecidableEq Pubkey] [Solana Pubkey]

namespace IronVaultEvent

def deposited (v m : Pubkey) : IronVaultEvent Pubkey → Nat
  | .vaultDeposit event => if event.vault = v ∧ event.mint = m then event.amount.toNat else 0
  | _ => 0

def withdrawn (v m : Pubkey) : IronVaultEvent Pubkey → Nat
  | .vaultWithdrawal event => if event.vault = v ∧ event.mint = m then event.amount.toNat else 0
  | .withdrawalExecuted event => if event.vault = v ∧ event.mint = m then event.amount.toNat else 0
  | _ => 0

end IronVaultEvent

def totalDeposited (events : List (IronVaultEvent Pubkey)) (v m : Pubkey) : Nat :=
  (events.map (·.deposited v m)).sum

def totalWithdrawn (events : List (IronVaultEvent Pubkey)) (v m : Pubkey) : Nat :=
  (events.map (·.withdrawn v m)).sum

/--
What a transition pays into `key` other than by `deposit`: a transfer or a mint of third parties, or
a payout of another escrow or vault that was sent there.
-/
def donated (key : Pubkey) (t : Transition (State Pubkey) (Action Pubkey)) : Nat :=
  match t.action with
  | .thirdParty => t.post.balance key - t.pre.balance key
  | .instruction (.deposit ..) _ => 0
  | .instruction ix _ => ix.credit t.pre key

def totalDonated (tr : List (Transition (State Pubkey) (Action Pubkey))) (key : Pubkey) : Nat :=
  (tr.map (donated key)).sum

section Step

variable {s s' : State Pubkey} {v m : Pubkey}

omit [Solana Pubkey] in
theorem Instruction.debit_of_source {ix : Instruction Pubkey} {x : Transfer Pubkey} {k : Pubkey}
    (htransfer : ix.transfer s = some x) :
    ix.debit s k = if k = x.source then x.amount.toNat else 0 := by
  simp only [Instruction.debit, htransfer]

theorem Outflow.debit_eq {config vaultKey mint assetKey custody destination : Pubkey}
    {amount : UInt64} {now : Int64} {vault : Vault Pubkey} {asset : VaultAsset Pubkey}
    {next : Int64 × UInt64} {ix : Instruction Pubkey}
    (h : Outflow s config vaultKey mint assetKey custody destination amount now s' vault asset next)
    (htransfer : ix.transfer s = some ⟨custody, destination, amount⟩) :
    ix.debit s (address (.vaultToken v m))
      = if vaultKey = v ∧ mint = m then amount.toNat else 0 := by
  rw [Instruction.debit_of_source htransfer]
  simp only [h.custody_eq, address_inj, Seeds.vaultToken.injEq, eq_comm]

theorem Effect.debit_eq {ix : Instruction Pubkey} {now : Int64}
    {event : Option (IronVaultEvent Pubkey)} (hs : Reachable s)
    (h : Effect s (.instruction ix now) s' event) (v m : Pubkey) :
    ix.debit s (address (.vaultToken v m)) = totalWithdrawn event.toList v m := by
  have hguard := hs.guarded_vaultToken v m
  cases h with
  | dispatch => rfl
  | createEscrow hsigner h =>
    rw [h.event_eq]
    apply Instruction.debit_of_ne rfl
    apply hguard.ne_of_owner hsigner h.makerToken_owner
  | deposit hsigner h =>
    rw [h.event_eq]
    apply Instruction.debit_of_ne rfl
    apply hguard.ne_of_owner hsigner h.source_owner
  | releaseEscrow h =>
    rw [h.event_eq]
    apply Instruction.debit_of_ne (Instruction.transfer_releaseEscrow h.settled.escrow_eq)
    simp [h.settled.custody_eq]
  | refundEscrow h =>
    rw [h.event_eq]
    apply Instruction.debit_of_ne (Instruction.transfer_refundEscrow h.settled.escrow_eq)
    simp [h.settled.custody_eq]
  | withdraw h =>
    rw [h.event_eq, h.outflow.debit_eq rfl]
    simp [totalWithdrawn, IronVaultEvent.withdrawn]
  | executeWithdrawal h =>
    rw [h.event_eq, h.outflow.debit_eq (Instruction.transfer_executeWithdrawal h.request_eq)]
    simp [totalWithdrawn, IronVaultEvent.withdrawn]
  | createVault _ h =>
    rw [h.event_eq]
    rfl
  | _ h =>
    rw [h.event_eq]
    rfl

theorem Effect.credit_eq {ix : Instruction Pubkey} {now : Int64}
    {event : Option (IronVaultEvent Pubkey)} (h : Effect s (.instruction ix now) s' event)
    (v m : Pubkey) :
    ix.credit s (address (.vaultToken v m)) = totalDeposited event.toList v m
      + donated (address (.vaultToken v m)) ⟨s, .instruction ix now, s'⟩ := by
  -- Only `deposit` emits an event that counts, everything else that it pays in is a donation.
  have hother (hdeposit : ∀ ctx amount, ix ≠ .deposit ctx amount)
      (hevent : totalDeposited event.toList v m = 0) :
      ix.credit s (address (.vaultToken v m)) = totalDeposited event.toList v m
        + donated (address (.vaultToken v m)) ⟨s, .instruction ix now, s'⟩ := by
    rw [hevent, Nat.zero_add]
    cases ix with
    | deposit ctx amount => exact absurd rfl (hdeposit ctx amount)
    | _ => rfl
  cases h with
  | dispatch => exact hother (by simp) rfl
  | deposit _ h =>
    rw [h.event_eq]
    simp only [Instruction.credit, Instruction.transfer, h.custody_eq, address_inj,
      Seeds.vaultToken.injEq, totalDeposited, donated, IronVaultEvent.deposited, Option.toList_some,
      List.map_cons, List.map_nil, List.sum_cons, List.sum_nil, Nat.add_zero]
    simp only [eq_comm]
  | createEscrow _ h =>
    apply hother (by simp)
    rw [h.event_eq]
    rfl
  | createVault _ h =>
    apply hother (by simp)
    rw [h.event_eq]
    rfl
  | _ h =>
    apply hother (by simp)
    rw [h.event_eq]
    rfl

theorem Step.balance_audited {a : Action Pubkey} (hs : Reachable s) (hstep : Step s a s')
    (v m : Pubkey) :
    s'.balance (address (.vaultToken v m)) + totalWithdrawn (emitted s a).toList v m
      = s.balance (address (.vaultToken v m)) + totalDeposited (emitted s a).toList v m
        + donated (address (.vaultToken v m)) ⟨s, a, s'⟩ := by
  cases a with
  | thirdParty =>
    cases hstep with
    | @thirdParty token mint hthird =>
      have hle := (hs.guarded_vaultToken v m).le_thirdParty hthird
      simp only [donated, emitted, totalWithdrawn, totalDeposited, Option.toList_none,
        List.map_nil, List.sum_nil]
      simp only [State.balance] at hle ⊢
      omega
  | instruction ix now =>
    obtain ⟨event, hevent, heffect⟩ := hstep.effect
    have hbalance := (hstep.ledger hs).balance_add (address (.vaultToken v m))
    have hdebit := heffect.debit_eq hs v m
    have hcredit := heffect.credit_eq v m
    rw [hevent]
    omega

end Step

theorem vault_balance_audited {tr : List (Transition (State Pubkey) (Action Pubkey))}
    {s : State Pubkey} (h : History tr s) (v m : Pubkey) :
    s.balance (address (.vaultToken v m)) + totalWithdrawn (emittedEvents tr) v m
      = totalDeposited (emittedEvents tr) v m + totalDonated tr (address (.vaultToken v m)) := by
  induction h with
  | nil => rfl
  | @snoc tr t u a run hstep ih =>
    have hbalance := hstep.balance_audited ⟨tr, run⟩ v m
    have hevents : emittedEvents (tr ++ [⟨t, a, u⟩]) = emittedEvents tr ++ (emitted t a).toList := by
      simp only [emittedEvents, List.filterMap_append]
      cases hemitted : emitted t a <;> simp [hemitted]
    rw [hevents]
    simp only [totalWithdrawn, totalDeposited, totalDonated, List.map_append, List.sum_append,
      List.map_cons, List.map_nil, List.sum_cons, List.sum_nil] at ih hbalance ⊢
    omega

open Scenario in
theorem vault_balance_audited_executed :
    (start.final (requested ++ [(executeWithdrawal, 16)])).balance vaultToken
      + totalWithdrawn (emittedEvents (trace (requested ++ [(executeWithdrawal, 16)]))) vault mint
      = 100 := by
  have h := vault_balance_audited history_executed vault mint
  have hdeposited : totalDeposited (emittedEvents (trace (requested ++ [(executeWithdrawal, 16)])))
      vault mint + totalDonated (trace (requested ++ [(executeWithdrawal, 16)])) vaultToken = 100 := by
    decide +kernel
  exact h.trans hdeposited

end IronVault
