import IronVault.Program.Lemmas.Custody
import IronVault.Program.Symbolic

/-!
This module contains the life of an escrow along a run: it is created once, it is settled at most
once, and until then its custody account holds its amount on top of whatever others paid in.
-/

namespace IronVault

variable {Pubkey : Type} [DecidableEq Pubkey] [Solana Pubkey]

/--
What a transition pays into `key`, the funding of an escrow apart. `create_escrow` pays into the
account it opens and nowhere else.
-/
def received (key : Pubkey) (t : Transition (State Pubkey) (Action Pubkey)) : Nat :=
  match t.action with
  | .thirdParty => t.post.balance key - t.pre.balance key
  | .instruction (.createEscrow ..) _ => 0
  | .instruction ix _ => ix.credit t.pre key

def totalReceived (tr : List (Transition (State Pubkey) (Action Pubkey))) (key : Pubkey) : Nat :=
  (tr.map (received key)).sum

def State.owed (s : State Pubkey) (key : Pubkey) : Nat :=
  match s.escrow key with
  | some escrow => if escrow.status = .funded then escrow.amount.toNat else 0
  | none => 0

section Accounting

variable {s s' : State Pubkey} {key : Pubkey}

omit [DecidableEq Pubkey] [Solana Pubkey] in
theorem State.owed_congr (h : s'.escrow key = s.escrow key) : s'.owed key = s.owed key := by
  simp only [State.owed, h]

omit [Solana Pubkey] in
theorem Instruction.debit_of_ne {ix : Instruction Pubkey} {x : Transfer Pubkey} {k : Pubkey}
    (htransfer : ix.transfer s = some x) (hne : x.source ≠ k) : ix.debit s k = 0 := by
  simp only [Instruction.debit, htransfer]
  rw [if_neg (Ne.symm hne)]

theorem Escrow.Settled.owed_eq {escrow : Escrow Pubkey} {k custody destination beneficiary : Pubkey}
    {status : EscrowStatus} (h : escrow.Settled s k custody destination beneficiary status s')
    (hstatus : status ≠ .funded) {ix : Instruction Pubkey}
    (htransfer : ix.transfer s = some ⟨custody, destination, escrow.amount⟩) :
    s.owed key = s'.owed key + ix.debit s (address (.escrowToken key)) := by
  by_cases hkey : k = key
  . subst hkey
    have hpost : s'.escrow k = some { escrow with status } := by
      rw [h.post_eq]
      exact Function.update_self ..
    simp only [State.owed, h.escrow_eq, h.status_eq, hpost, Instruction.debit, htransfer,
      h.custody_eq]
    simp [hstatus]
  . have hpost : s'.escrow key = s.escrow key := by
      rw [h.post_eq]
      exact Function.update_of_ne (Ne.symm hkey) ..
    have hne : custody ≠ address (.escrowToken key) := by
      rw [h.custody_eq]
      simpa using hkey
    rw [Instruction.debit_of_ne htransfer hne, State.owed_congr hpost, Nat.add_zero]

theorem Effect.owed_eq {ix : Instruction Pubkey} {now : Int64}
    {event : Option (IronVaultEvent Pubkey)} (hs : Reachable s)
    (h : Effect s (.instruction ix now) s' event) (key : Pubkey)
    (hcreate : ∀ ctx escrowId recipient amount expiresAt,
      ix ≠ .createEscrow ctx escrowId recipient amount expiresAt) :
    s.owed key = s'.owed key + ix.debit s (address (.escrowToken key)) := by
  -- Apart from `create_escrow`, what leaves the custody account is what is no longer owed.
  have hsame (hescrow : s'.escrow = s.escrow)
      (hdebit : ix.debit s (address (.escrowToken key)) = 0) :
      s.owed key = s'.owed key + ix.debit s (address (.escrowToken key)) := by
    rw [State.owed_congr (congrFun hescrow key), hdebit, Nat.add_zero]
  cases h with
  | dispatch => exact hsame rfl rfl
  | createEscrow _ h => exact absurd rfl (hcreate _ _ _ _ _)
  | releaseEscrow h =>
    apply h.settled.owed_eq (by simp)
    exact Instruction.transfer_releaseEscrow h.settled.escrow_eq
  | refundEscrow h =>
    apply h.settled.owed_eq (by simp)
    exact Instruction.transfer_refundEscrow h.settled.escrow_eq
  | deposit hsigner h =>
    apply hsame (by rw [h.post_eq])
    apply Instruction.debit_of_ne rfl
    exact (hs.guarded_escrowToken key).ne_of_owner hsigner h.source_owner
  | withdraw h =>
    apply hsame (by rw [h.post_eq])
    apply Instruction.debit_of_ne rfl
    simp [h.outflow.custody_eq]
  | executeWithdrawal h =>
    apply hsame (by rw [h.post_eq])
    apply Instruction.debit_of_ne (Instruction.transfer_executeWithdrawal h.request_eq)
    simp [h.outflow.custody_eq]
  | createVault _ h => exact hsame (by rw [h.post_eq]) rfl
  | _ h => exact hsame (by rw [h.post_eq]) rfl

theorem CreateEscrow.Accepted.owed_eq {ctx : CreateEscrow Pubkey} {escrowId : UInt64}
    {recipient : Pubkey} {amount : UInt64} {expiresAt now : Int64} {event : IronVaultEvent Pubkey}
    (h : ctx.Accepted s escrowId recipient amount expiresAt now s' event) (key : Pubkey) :
    s'.owed key = s.owed key +
      (Instruction.createEscrow ctx escrowId recipient amount expiresAt).credit s
        (address (.escrowToken key)) := by
  by_cases hkey : ctx.escrow = key
  . subst hkey
    have hfresh : s.escrow ctx.escrow = none := (State.vacant_of_unallocated h.fresh).escrow
    have hpost := congrFun (congrArg State.escrow h.post_eq) ctx.escrow
    simp only [Function.update_self] at hpost
    simp [State.owed, hpost, hfresh, Instruction.credit, Instruction.transfer, h.tokenKey_eq]
  . have hpost : s'.escrow key = s.escrow key := by
      rw [h.post_eq]
      exact Function.update_of_ne (Ne.symm hkey) ..
    have hne : address (.escrowToken key) ≠ ctx.escrowToken := by
      rw [h.tokenKey_eq]
      simpa using Ne.symm hkey
    rw [State.owed_congr hpost]
    simp [Instruction.credit, Instruction.transfer, hne]

theorem Step.balance_owed {a : Action Pubkey} (hs : Reachable s) (hstep : Step s a s')
    (key : Pubkey) :
    s'.balance (address (.escrowToken key)) + s.owed key
      = s.balance (address (.escrowToken key)) + s'.owed key
        + received (address (.escrowToken key)) ⟨s, a, s'⟩ := by
  have hguard := hs.guarded_escrowToken key
  cases a with
  | thirdParty =>
    cases hstep with
    | @thirdParty token mint hthird =>
      have hle := hguard.le_thirdParty hthird
      have howed : State.owed { s with token, mint } key = s.owed key := State.owed_congr rfl
      simp only [received, howed]
      simp only [State.balance] at hle ⊢
      omega
  | instruction ix now =>
    have hbalance := (hstep.ledger hs).balance_add (address (.escrowToken key))
    by_cases hcreate : ∃ ctx escrowId recipient amount expiresAt,
        ix = .createEscrow ctx escrowId recipient amount expiresAt
    . obtain ⟨ctx, escrowId, recipient, amount, expiresAt, rfl⟩ := hcreate
      obtain ⟨event, -, heffect⟩ := hstep.effect
      cases heffect with
      | createEscrow hsigner h =>
        have howed := h.owed_eq key
        have hdebit : (Instruction.createEscrow ctx escrowId recipient amount expiresAt).debit s
            (address (.escrowToken key)) = 0 := by
          apply Instruction.debit_of_ne rfl
          exact hguard.ne_of_owner hsigner h.makerToken_owner
        simp only [received]
        omega
    . obtain ⟨event, -, heffect⟩ := hstep.effect
      have howed := heffect.owed_eq hs key fun ctx escrowId recipient amount
        expiresAt heq => hcreate ⟨ctx, escrowId, recipient, amount, expiresAt, heq⟩
      have hreceived : received (address (.escrowToken key)) ⟨s, .instruction ix now, s'⟩
          = ix.credit s (address (.escrowToken key)) := by
        cases ix with
        | createEscrow ctx escrowId recipient amount expiresAt =>
          exact absurd ⟨ctx, escrowId, recipient, amount, expiresAt, rfl⟩ hcreate
        | _ => rfl
      omega

theorem History.solvent {tr : List (Transition (State Pubkey) (Action Pubkey))}
    (h : History tr s) (key : Pubkey) :
    s.balance (address (.escrowToken key))
      = s.owed key + totalReceived tr (address (.escrowToken key)) := by
  induction h with
  | nil => rfl
  | @snoc tr t u a run hstep ih =>
    have hbalance := hstep.balance_owed ⟨tr, run⟩ key
    simp only [totalReceived, List.map_append, List.sum_append, List.map_cons, List.map_nil,
      List.sum_cons, List.sum_nil] at ih ⊢
    omega

end Accounting

section Lifecycle

variable {s s' : State Pubkey} {a : Action Pubkey} {key maker : Pubkey} {escrowId : UInt64}
  {tr : List (Transition (State Pubkey) (Action Pubkey))}

theorem Run.escrow_some (run : Run Step s tr s') {escrow : Escrow Pubkey}
    (hescrow : s.escrow key = some escrow) :
    ∃ status, s'.escrow key = some { escrow with status } := by
  apply run.invariant (P := fun t => ∃ status, t.escrow key = some { escrow with status })
  . exact ⟨escrow.status, hescrow⟩
  . rintro t a u - hstep ⟨status, hmid⟩
    obtain ⟨status', hpost⟩ := hstep.escrow_some hmid
    exact ⟨status', hpost⟩

theorem Step.escrow_status (hstep : Step s a s') {escrow escrow' : Escrow Pubkey}
    (hescrow : s.escrow key = some escrow) (hescrow' : s'.escrow key = some escrow') :
    escrow'.status = escrow.status ∨
      escrow.status = .funded ∧ (escrow'.status = .released ∨ escrow'.status = .refunded) := by
  cases hstep.escrow_evolves hescrow with
  | same h =>
    rw [hescrow', Option.some.injEq] at h
    exact .inl (by rw [h])
  | released _ haccepted h =>
    rw [hescrow', Option.some.injEq] at h
    exact .inr ⟨haccepted.settled.status_eq, .inl (by rw [h])⟩
  | refunded _ haccepted h =>
    rw [hescrow', Option.some.injEq] at h
    exact .inr ⟨haccepted.settled.status_eq, .inr (by rw [h])⟩

theorem Run.escrow_status (run : Run Step s tr s') {escrow : Escrow Pubkey}
    (hescrow : s.escrow key = some escrow) (hstatus : escrow.status ≠ .funded) :
    s'.escrow key = some escrow := by
  apply run.invariant (P := fun t => t.escrow key = some escrow) hescrow
  intro t a u _ hstep hmid
  cases hstep.escrow_evolves hmid with
  | same h => exact h
  | released _ haccepted _ => exact absurd haccepted.settled.status_eq hstatus
  | refunded _ haccepted _ => exact absurd haccepted.settled.status_eq hstatus

end Lifecycle

end IronVault
