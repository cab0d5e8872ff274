import IronVault.Program.Lemmas.WellFormed

/-!
This module contains what a step does to the token accounts. An instruction opens at most one
account and makes at most one transfer, and both can be read off the instruction. Everything about
balances and about the accounts under custody follows from that.
-/

namespace IronVault

variable {Pubkey : Type} [DecidableEq Pubkey] [Solana Pubkey]

structure Transfer (Pubkey : Type) where
  source : Pubkey
  destination : Pubkey
  amount : UInt64

def Instruction.transfer (s : State Pubkey) : Instruction Pubkey → Option (Transfer Pubkey)
  | .createEscrow ctx _ _ amount _ => some ⟨ctx.makerToken, ctx.escrowToken, amount⟩
  | .releaseEscrow ctx =>
    (s.escrow ctx.escrow).map fun escrow => ⟨ctx.escrowToken, ctx.recipientToken, escrow.amount⟩
  | .refundEscrow ctx =>
    (s.escrow ctx.escrow).map fun escrow => ⟨ctx.escrowToken, ctx.makerDestination, escrow.amount⟩
  | .deposit ctx amount => some ⟨ctx.sourceToken, ctx.vaultToken, amount⟩
  | .withdraw ctx amount => some ⟨ctx.vaultToken, ctx.destinationToken, amount⟩
  | .executeWithdrawal ctx =>
    (s.withdrawalRequest ctx.withdrawalRequest).map fun request =>
      ⟨ctx.vaultToken, ctx.recipientToken, request.amount⟩
  | _ => none

omit [DecidableEq Pubkey] [Solana Pubkey] in
theorem Instruction.transfer_releaseEscrow {s : State Pubkey} {ctx : ReleaseEscrow Pubkey}
    {escrow : Escrow Pubkey} (h : s.escrow ctx.escrow = some escrow) :
    (Instruction.releaseEscrow ctx).transfer s
      = some ⟨ctx.escrowToken, ctx.recipientToken, escrow.amount⟩ := by
  simp [transfer, h]

omit [DecidableEq Pubkey] [Solana Pubkey] in
theorem Instruction.transfer_refundEscrow {s : State Pubkey} {ctx : RefundEscrow Pubkey}
    {escrow : Escrow Pubkey} (h : s.escrow ctx.escrow = some escrow) :
    (Instruction.refundEscrow ctx).transfer s
      = some ⟨ctx.escrowToken, ctx.makerDestination, escrow.amount⟩ := by
  simp [transfer, h]

omit [DecidableEq Pubkey] [Solana Pubkey] in
theorem Instruction.transfer_executeWithdrawal {s : State Pubkey} {ctx : ExecuteWithdrawal Pubkey}
    {request : WithdrawalRequest Pubkey}
    (h : s.withdrawalRequest ctx.withdrawalRequest = some request) :
    (Instruction.executeWithdrawal ctx).transfer s
      = some ⟨ctx.vaultToken, ctx.recipientToken, request.amount⟩ := by
  simp [transfer, h]

def Instruction.opened : Instruction Pubkey → Option (Pubkey × TokenAccount Pubkey)
  | .createEscrow ctx _ _ _ _ =>
    some (ctx.escrowToken, .initializeAccount ctx.tokenProgram ctx.mint ctx.escrow)
  | .registerAsset ctx =>
    some (ctx.vaultToken, .initializeAccount ctx.tokenProgram ctx.mint ctx.vault)
  | _ => none

def openAccount (token : Pubkey → Option (TokenAccount Pubkey)) :
    Option (Pubkey × TokenAccount Pubkey) → Pubkey → Option (TokenAccount Pubkey)
  | none => token
  | some (key, account) => Function.update token key (some account)

structure LedgerStep (s : State Pubkey) (ix : Instruction Pubkey) (s' : State Pubkey) : Prop where
  mint_eq : s'.mint = s.mint
  fresh {key : Pubkey} {account : TokenAccount Pubkey} :
    ix.opened = some (key, account) → s.unallocated key
  unmoved : ix.transfer s = none → s'.token = openAccount s.token ix.opened
  moved {x : Transfer Pubkey} : ix.transfer s = some x →
    Moves (openAccount s.token ix.opened) x.source x.destination x.amount s'.token

omit [Solana Pubkey] in
theorem LedgerStep.of_token_eq {s s' : State Pubkey} {ix : Instruction Pubkey}
    (htransfer : ix.transfer s = none) (hopened : ix.opened = none) (hmint : s'.mint = s.mint)
    (htoken : s'.token = s.token) : LedgerStep s ix s' where
  mint_eq := hmint
  fresh := by simp [hopened]
  unmoved := by simp [hopened, openAccount, htoken]
  moved := by simp [htransfer]

omit [Solana Pubkey] in
theorem LedgerStep.of_moves {s s' : State Pubkey} {ix : Instruction Pubkey} {x : Transfer Pubkey}
    (htransfer : ix.transfer s = some x) (hopened : ix.opened = none) (hmint : s'.mint = s.mint)
    (hmoves : Moves s.token x.source x.destination x.amount s'.token) : LedgerStep s ix s' where
  mint_eq := hmint
  fresh := by simp [hopened]
  unmoved := by simp [htransfer]
  moved := by simpa [htransfer, hopened, openAccount] using hmoves

theorem Step.ledger {s s' : State Pubkey} {ix : Instruction Pubkey} {now : Int64}
    (hs : Reachable s) (h : Step s (.instruction ix now) s') : LedgerStep s ix s' := by
  obtain ⟨event, -, heffect⟩ := h.effect
  cases heffect with
  | dispatch => exact .of_token_eq rfl rfl rfl rfl
  | createEscrow _ h =>
    refine ⟨by rw [h.post_eq], ?_, by simp [Instruction.transfer], ?_⟩
    . simp only [Instruction.opened, Option.some.injEq, Prod.mk.injEq]
      rintro _ _ ⟨rfl, -⟩
      exact h.token_fresh
    . simp only [Instruction.transfer, Option.some.injEq]
      rintro _ rfl
      exact h.moves
  | releaseEscrow h =>
    have hpos := (hs.escrow h.settled.escrow_eq).amount_pos
    exact .of_moves (Instruction.transfer_releaseEscrow h.settled.escrow_eq) rfl
      (by rw [h.settled.post_eq]) (h.settled.moves hpos)
  | refundEscrow h =>
    have hpos := (hs.escrow h.settled.escrow_eq).amount_pos
    exact .of_moves (Instruction.transfer_refundEscrow h.settled.escrow_eq) rfl
      (by rw [h.settled.post_eq]) (h.settled.moves hpos)
  | registerAsset h =>
    refine ⟨by rw [h.post_eq], ?_, fun _ => by rw [h.post_eq]; rfl, by simp [Instruction.transfer]⟩
    simp only [Instruction.opened, Option.some.injEq, Prod.mk.injEq]
    rintro _ _ ⟨rfl, -⟩
    exact h.token_fresh
  | deposit _ h => exact .of_moves rfl rfl (by rw [h.post_eq]) h.moves
  | withdraw h => exact .of_moves rfl rfl (by rw [h.post_eq]) (h.outflow.moves h.amount_pos)
  | executeWithdrawal h =>
    have hpos := (hs.withdrawalRequest h.request_eq).amount_pos
    exact .of_moves (Instruction.transfer_executeWithdrawal h.request_eq) rfl (by rw [h.post_eq])
      (h.outflow.moves hpos)
  | createVault _ h => exact .of_token_eq rfl rfl (by rw [h.post_eq]) (by rw [h.post_eq])
  | _ h => exact .of_token_eq rfl rfl (by rw [h.post_eq]) (by rw [h.post_eq])

section Balance

def Instruction.debit (s : State Pubkey) (ix : Instruction Pubkey) (key : Pubkey) : Nat :=
  match ix.transfer s with
  | some x => if key = x.source then x.amount.toNat else 0
  | none => 0

def Instruction.credit (s : State Pubkey) (ix : Instruction Pubkey) (key : Pubkey) : Nat :=
  match ix.transfer s with
  | some x => if key = x.destination then x.amount.toNat else 0
  | none => 0

omit [Solana Pubkey] in
theorem balanceOf_update {token : Pubkey → Option (TokenAccount Pubkey)} {key k : Pubkey}
    {account : TokenAccount Pubkey} :
    balanceOf (Function.update token k (some account)) key
      = if key = k then account.amount.toNat else balanceOf token key := by
  by_cases h : key = k
  . simp [balanceOf, h]
  . simp [balanceOf, h]

omit [Solana Pubkey] in
theorem Moves.balanceOf_add {token token' : Pubkey → Option (TokenAccount Pubkey)}
    {source destination : Pubkey} {amount : UInt64}
    (h : Moves token source destination amount token') (key : Pubkey) :
    balanceOf token' key + (if key = source then amount.toNat else 0)
      = balanceOf token key + (if key = destination then amount.toNat else 0) := by
  obtain ⟨hne, src, src', dst, hsrc, hdst, hdebit, -, hroom, rfl⟩ := h
  have hsum := UInt64.toNat_add dst.amount amount
  rw [Nat.mod_eq_of_lt hroom] at hsum
  rw [balanceOf_update, balanceOf_update]
  by_cases hd : key = destination
  . subst hd
    rw [if_pos rfl, if_neg hne.symm, if_pos rfl, hsum]
    simp [balanceOf, hdst]
  . by_cases hs : key = source
    . subst hs
      rw [if_neg hd, if_pos rfl, if_pos rfl, if_neg hd, ← hdebit.amount]
      simp [balanceOf, hsrc]
    . rw [if_neg hd, if_neg hs, if_neg hs, if_neg hd]

omit [Solana Pubkey] in
theorem LedgerStep.balanceOf_openAccount {s s' : State Pubkey} {ix : Instruction Pubkey}
    (h : LedgerStep s ix s') (key : Pubkey) :
    balanceOf (openAccount s.token ix.opened) key = s.balance key := by
  cases hopened : ix.opened with
  | none => rfl
  | some opened =>
    obtain ⟨k, account⟩ := opened
    have hfresh : s.token k = none := (State.vacant_of_unallocated (h.fresh hopened)).token
    have hzero : account.amount = 0 := by
      cases ix <;> simp [Instruction.opened] at hopened <;> simp [← hopened.2, TokenAccount.initializeAccount]
    rw [openAccount, balanceOf_update]
    split
    . next hkey => simp [hkey, hzero, State.balance, balanceOf, hfresh]
    . rfl

omit [Solana Pubkey] in
theorem LedgerStep.balance_add {s s' : State Pubkey} {ix : Instruction Pubkey}
    (h : LedgerStep s ix s') (key : Pubkey) :
    s'.balance key + ix.debit s key = s.balance key + ix.credit s key := by
  rw [← h.balanceOf_openAccount key]
  unfold Instruction.debit Instruction.credit
  cases htransfer : ix.transfer s with
  | none =>
    rw [State.balance, h.unmoved htransfer]
  | some x => exact (h.moved htransfer).balanceOf_add key

end Balance

end IronVault
