import IronVault.Program.Lemmas.Ledger

/-!
This module contains the custody accounts: once opened, the account of a vault asset or of an escrow
stays under the control of its program derived owner in every run, whatever third parties do.
-/

namespace IronVault

variable {Pubkey : Type} [DecidableEq Pubkey] [Solana Pubkey]

/--
An account that only its owner controls: since it was opened, it was credited, debited and frozen.
-/
def TokenAccount.custody (tokenProgram mint owner : Pubkey) (amount : UInt64) (frozen : Bool) :
    TokenAccount Pubkey :=
  { initializeAccount tokenProgram mint owner with amount, frozen }

structure State.Custody (s : State Pubkey) (key owner mint tokenProgram : Pubkey) : Prop where
  owner_address : IsProgramAddress owner
  mint_supported : s.SupportedMint mint tokenProgram
  account_eq : ∃ amount frozen, s.token key = some (.custody tokenProgram mint owner amount frozen)

namespace State.Custody

variable {s s' : State Pubkey} {key owner mint tokenProgram : Pubkey}

theorem owner_eq (h : s.Custody key owner mint tokenProgram) {account : TokenAccount Pubkey}
    (haccount : s.token key = some account) : account.owner = owner := by
  obtain ⟨amount, frozen, heq⟩ := h.account_eq
  rw [heq, Option.some.injEq] at haccount
  rw [← haccount]
  rfl

/--
A custody account pays `destination` unless the token program refuses: the owner of custody is no
wallet, so only the freeze authority of the mint can stop it.
-/
theorem payable_iff (h : s.Custody key owner mint tokenProgram) {destination : Pubkey}
    {src dst : TokenAccount Pubkey} (hsrc : s.token key = some src)
    (hdst : s.token destination = some dst) (amount : UInt64) :
    s.Payable key destination ↔ src.Sends amount ∧ dst.Receives := by
  obtain ⟨balance, frozen, heq⟩ := h.account_eq
  rw [heq, Option.some.injEq] at hsrc
  subst hsrc
  simp [Payable, State.frozen, State.memoRequired, heq, hdst, TokenAccount.Sends,
    TokenAccount.Receives, TokenAccount.custody, TokenAccount.initializeAccount]

theorem receives_iff (h : s.Custody key owner mint tokenProgram) {account : TokenAccount Pubkey}
    (haccount : s.token key = some account) : account.Receives ↔ s.frozen key = false := by
  obtain ⟨balance, frozen, heq⟩ := h.account_eq
  rw [heq, Option.some.injEq] at haccount
  subst haccount
  simp [State.frozen, heq, TokenAccount.Receives, TokenAccount.custody,
    TokenAccount.initializeAccount]

theorem payable_of_moves (h : s.Custody key owner mint tokenProgram) {destination : Pubkey}
    {amount : UInt64} {token' : Pubkey → Option (TokenAccount Pubkey)}
    (hmoves : Moves s.token key destination amount token') : s.Payable key destination := by
  obtain ⟨-, src, src', dst, hsrc, hdst, hdebit, hreceives, -⟩ := hmoves
  exact (h.payable_iff hsrc hdst amount).mpr ⟨hdebit.sends, hreceives⟩

omit [Solana Pubkey] in
theorem account_of_moves {token token' : Pubkey → Option (TokenAccount Pubkey)}
    {source destination : Pubkey} {amount a : UInt64} {frozen : Bool}
    (hmoves : Moves token source destination a token')
    (h : token key = some (.custody tokenProgram mint owner amount frozen)) :
    ∃ amount frozen, token' key = some (.custody tokenProgram mint owner amount frozen) := by
  obtain ⟨hne, src, src', dst, hsrc, hdst, hdebit, -, -, rfl⟩ := hmoves
  by_cases hd : key = destination
  . subst hd
    rw [h, Option.some.injEq] at hdst
    subst hdst
    exact ⟨_, frozen, Function.update_self ..⟩
  . rw [Function.update_of_ne hd]
    by_cases hs : key = source
    . subst hs
      rw [h, Option.some.injEq] at hsrc
      subst hsrc
      rw [Function.update_self]
      exact ⟨src'.amount, frozen, congrArg some (hdebit.frame nofun)⟩
    . rw [Function.update_of_ne hs]
      exact ⟨amount, frozen, h⟩

theorem ledgerStep (h : s.Custody key owner mint tokenProgram) {ix : Instruction Pubkey}
    (hledger : LedgerStep s ix s') : s'.Custody key owner mint tokenProgram := by
  obtain ⟨howner, hmint, amount, frozen, haccount⟩ := h
  have hopened : openAccount s.token ix.opened key = s.token key := by
    -- the account opened is not `key`, where there is one already
    cases hopened : ix.opened with
    | none => rfl
    | some opened =>
      refine Function.update_of_ne ?_ _ _
      rintro rfl
      simp [(State.vacant_of_unallocated (hledger.fresh hopened)).token] at haccount
  refine ⟨howner, by simpa [SupportedMint, hledger.mint_eq] using hmint, ?_⟩
  cases htransfer : ix.transfer s with
  | none => exact ⟨amount, frozen, by rw [hledger.unmoved htransfer, hopened, haccount]⟩
  | some x => exact account_of_moves (hledger.moved htransfer) (hopened.trans haccount)

theorem thirdParty (h : s.Custody key owner mint tokenProgram)
    {token' : Pubkey → Option (TokenAccount Pubkey)} {mint' : Pubkey → Option (Mint Pubkey)}
    (hthird : ThirdParty s token' mint') :
    State.Custody { s with token := token', mint := mint' } key owner mint tokenProgram ∧
      s.balance key ≤ balanceOf token' key := by
  obtain ⟨howner, ⟨m, hm, hprogram, hmprogram, hsupported⟩, amount, frozen, haccount⟩ := h
  obtain ⟨amount', frozen', hle, haccount'⟩ :=
    hthird.token_some haccount howner rfl rfl hm hsupported
  refine ⟨⟨howner, ⟨m, hthird.mint_some hm hsupported, hprogram, hmprogram, hsupported⟩, amount',
    frozen', haccount'⟩, ?_⟩
  simp only [State.balance, balanceOf, haccount, haccount']
  exact UInt64.le_iff_toNat_le.mp hle

theorem step (h : s.Custody key owner mint tokenProgram) {a : Action Pubkey} (hs : Reachable s)
    (hstep : Step s a s') : s'.Custody key owner mint tokenProgram := by
  cases a with
  | instruction ix now => exact h.ledgerStep (hstep.ledger hs)
  | thirdParty =>
    cases hstep with
    | thirdParty hthird => exact (h.thirdParty hthird).1

end State.Custody

theorem Reachable.custody_of_asset {s : State Pubkey} (h : Reachable s) {key : Pubkey}
    {asset : VaultAsset Pubkey} (hasset : s.vaultAsset key = some asset) :
    s.Custody (address (.vaultToken asset.vault asset.mint)) asset.vault asset.mint
      asset.tokenProgram := by
  induction h using Reachable.induction generalizing key asset with
  | empty => simp [State.empty] at hasset
  | step s a s' hreach hstep ih =>
    have hkeep {key : Pubkey} {asset : VaultAsset Pubkey} (h : s.vaultAsset key = some asset) :=
      (ih h).step hreach hstep
    cases hstep.assetChange with
    | same h =>
      rw [h] at hasset
      exact hkeep hasset
    | register h =>
      have hpost := h.post_eq
      rw [h.post_eq] at hasset
      apply Function.forall_update_some hasset hkeep
      refine ⟨(hreach.vault h.vault_eq).canonical.isProgramAddress, ?_, 0, false, ?_⟩
      . rw [hpost]
        exact h.mint_supported
      . rw [hpost, ← h.tokenKey_eq]
        exact Function.update_self ..
    | updateLimits h =>
      rw [h.post_eq] at hasset
      apply Function.forall_update_some hasset hkeep
      have hcustody := hkeep h.asset_eq
      exact hcustody
    | withdraw h =>
      rw [h.outflow.asset_post] at hasset
      apply Function.forall_update_some hasset hkeep
      have hcustody := hkeep h.outflow.asset_eq
      exact hcustody
    | execute h =>
      rw [h.outflow.asset_post] at hasset
      apply Function.forall_update_some hasset hkeep
      have hcustody := hkeep h.outflow.asset_eq
      exact hcustody

theorem Reachable.custody_of_escrow {s : State Pubkey} (h : Reachable s) {key : Pubkey}
    {escrow : Escrow Pubkey} (hescrow : s.escrow key = some escrow) :
    s.Custody (address (.escrowToken key)) key escrow.mint escrow.tokenProgram := by
  induction h using Reachable.induction generalizing key escrow with
  | empty => simp [State.empty] at hescrow
  | step s a s' hreach hstep ih =>
    have hkeep {key : Pubkey} {escrow : Escrow Pubkey} (h : s.escrow key = some escrow) :=
      (ih h).step hreach hstep
    cases hstep.escrowChange with
    | same h =>
      rw [h] at hescrow
      exact hkeep hescrow
    | create h =>
      have hpost := h.post_eq
      rw [h.post_eq] at hescrow
      apply Function.forall_update_some hescrow hkeep
      refine ⟨?_, ?_, ?_⟩
      . rw [h.key_eq]
        exact isProgramAddress_address _
      . rw [hpost]
        exact h.mint_supported
      . rw [← h.tokenKey_eq]
        exact State.Custody.account_of_moves h.moves (Function.update_self ..)
    | release h =>
      rw [h.settled.post_eq] at hescrow
      apply Function.forall_update_some hescrow hkeep
      have hcustody := hkeep h.settled.escrow_eq
      exact hcustody
    | refund h =>
      rw [h.settled.post_eq] at hescrow
      apply Function.forall_update_some hescrow hkeep
      have hcustody := hkeep h.settled.escrow_eq
      exact hcustody

omit [Solana Pubkey] in
theorem Moves.token_none {token token' : Pubkey → Option (TokenAccount Pubkey)}
    {source destination key : Pubkey} {amount : UInt64}
    (h : Moves token source destination amount token') (hnone : token key = none) :
    token' key = none := by
  obtain ⟨-, src, src', dst, hsrc, hdst, -, -, -, rfl⟩ := h
  rw [Function.update_of_ne, Function.update_of_ne, hnone]
  . rintro rfl
    simp [hsrc] at hnone
  . rintro rfl
    simp [hdst] at hnone

omit [Solana Pubkey] in
theorem LedgerStep.opened_of_token {s s' : State Pubkey} {ix : Instruction Pubkey}
    (h : LedgerStep s ix s') {key : Pubkey} (hnone : s.token key = none)
    (hsome : s'.token key ≠ none) : ∃ account, ix.opened = some (key, account) := by
  have hopened : openAccount s.token ix.opened key ≠ none := by
    intro hopen
    cases htransfer : ix.transfer s with
    | none => exact hsome ((congrFun (h.unmoved htransfer) key).trans hopen)
    | some x => exact hsome ((h.moved htransfer).token_none hopen)
  cases hix : ix.opened with
  | none => simp [hix, openAccount, hnone] at hopened
  | some opened =>
    obtain ⟨k, account⟩ := opened
    have hk : k = key := by
      by_contra hne
      simp [hix, openAccount, Function.update_of_ne (Ne.symm hne), hnone] at hopened
    exact ⟨account, by rw [hk]⟩

theorem Step.opened_of_token {s s' : State Pubkey} {a : Action Pubkey} (hstep : Step s a s')
    (hs : Reachable s) {key : Pubkey} (hkey : IsProgramAddress key) (hnone : s.token key = none)
    (hsome : s'.token key ≠ none) :
    ∃ ix now account, a = .instruction ix now ∧ ix.opened = some (key, account) := by
  cases a with
  | thirdParty =>
    cases hstep with
    | thirdParty hthird => exact absurd (hthird.token_none hkey hnone) hsome
  | instruction ix now =>
    obtain ⟨account, hopened⟩ := (hstep.ledger hs).opened_of_token hnone hsome
    exact ⟨ix, now, account, rfl, hopened⟩

theorem Step.vaultAsset_some {s s' : State Pubkey} {a : Action Pubkey} (hstep : Step s a s')
    {key : Pubkey} {asset : VaultAsset Pubkey} (hasset : s.vaultAsset key = some asset) :
    ∃ asset', s'.vaultAsset key = some asset' ∧ asset'.vault = asset.vault ∧
      asset'.mint = asset.mint := by
  have hupdate {k : Pubkey} {old new : VaultAsset Pubkey} (hold : s.vaultAsset k = some old)
      (hpost : s'.vaultAsset = Function.update s.vaultAsset k (some new))
      (hvault : new.vault = old.vault) (hmint : new.mint = old.mint) :
      ∃ asset', s'.vaultAsset key = some asset' ∧ asset'.vault = asset.vault ∧
        asset'.mint = asset.mint := by
    rcases Function.update_cases hasset hold hpost with ⟨-, rfl, hpost⟩ | ⟨-, hpost⟩
    . exact ⟨new, hpost, hvault, hmint⟩
    . exact ⟨asset, hpost, rfl, rfl⟩
  cases hstep.assetChange with
  | same h => exact ⟨asset, by rw [h, hasset], rfl, rfl⟩
  | register h =>
    refine ⟨asset, ?_, rfl, rfl⟩
    apply Function.update_of_vacant hasset (State.vacant_of_unallocated h.fresh).vaultAsset
    exact congrArg State.vaultAsset h.post_eq
  | updateLimits h =>
    have hpost := congrArg State.vaultAsset h.post_eq
    exact hupdate h.asset_eq hpost rfl rfl
  | withdraw h => exact hupdate h.outflow.asset_eq h.outflow.asset_post rfl rfl
  | execute h => exact hupdate h.outflow.asset_eq h.outflow.asset_post rfl rfl

theorem Reachable.asset_of_token {s : State Pubkey} (h : Reachable s) {v m : Pubkey}
    (htoken : s.token (address (.vaultToken v m)) ≠ none) :
    ∃ asset, s.vaultAsset (address (.vaultAsset v m)) = some asset ∧ asset.vault = v ∧
      asset.mint = m := by
  induction h using Reachable.induction with
  | empty => simp [State.empty] at htoken
  | step s a s' hreach hstep ih =>
    by_cases hnone : s.token (address (.vaultToken v m)) = none
    . obtain ⟨ix, now, account, rfl, hopened⟩ :=
        hstep.opened_of_token hreach (isProgramAddress_address _) hnone htoken
      obtain ⟨event, -, heffect⟩ := hstep.effect
      cases heffect with
      | createEscrow _ h =>
        simp [Instruction.opened, h.tokenKey_eq] at hopened
      | registerAsset h =>
        simp [Instruction.opened, h.tokenKey_eq] at hopened
        obtain ⟨⟨rfl, rfl⟩, -⟩ := hopened
        rw [h.post_eq, ← h.key_eq]
        exact ⟨_, Function.update_self .., rfl, rfl⟩
      | _ => simp [Instruction.opened] at hopened
    . obtain ⟨asset, hasset, rfl, rfl⟩ := ih hnone
      exact hstep.vaultAsset_some hasset

inductive Escrow.Evolves (s : State Pubkey) (key : Pubkey) (escrow : Escrow Pubkey) :
    Action Pubkey → State Pubkey → Prop where
  | same {a : Action Pubkey} {s' : State Pubkey} (h : s'.escrow key = some escrow) :
      Evolves s key escrow a s'
  | released {ctx : ReleaseEscrow Pubkey} {now : Int64} {s' : State Pubkey}
      {event : IronVaultEvent Pubkey} (hkey : ctx.escrow = key)
      (h : ctx.Accepted s now s' event escrow)
      (hpost : s'.escrow key = some { escrow with status := .released }) :
      Evolves s key escrow (.instruction (.releaseEscrow ctx) now) s'
  | refunded {ctx : RefundEscrow Pubkey} {now : Int64} {s' : State Pubkey}
      {event : IronVaultEvent Pubkey} (hkey : ctx.escrow = key)
      (h : ctx.Accepted s now s' event escrow)
      (hpost : s'.escrow key = some { escrow with status := .refunded }) :
      Evolves s key escrow (.instruction (.refundEscrow ctx) now) s'

theorem Escrow.Settled.cases {s s' : State Pubkey} {key k custody destination beneficiary : Pubkey}
    {escrow old : Escrow Pubkey} {status : EscrowStatus}
    (h : old.Settled s k custody destination beneficiary status s')
    (hescrow : s.escrow key = some escrow) :
    (k = key ∧ old = escrow ∧ s'.escrow key = some { escrow with status }) ∨
      (k ≠ key ∧ s'.escrow key = some escrow) := by
  have hpost := congrArg State.escrow h.post_eq
  rcases Function.update_cases hescrow h.escrow_eq hpost with ⟨hkey, rfl, hpost⟩ | hpost
  . exact .inl ⟨hkey, rfl, hpost⟩
  . exact .inr hpost

theorem Step.escrow_evolves {s s' : State Pubkey} {a : Action Pubkey} (hstep : Step s a s')
    {key : Pubkey} {escrow : Escrow Pubkey} (hescrow : s.escrow key = some escrow) :
    escrow.Evolves s key a s' := by
  cases hstep.escrowChange with
  | same h => exact .same (by rw [h, hescrow])
  | create h =>
    apply Escrow.Evolves.same
    apply Function.update_of_vacant hescrow (State.vacant_of_unallocated h.fresh).escrow
    exact congrArg State.escrow h.post_eq
  | release h =>
    rcases h.settled.cases hescrow with ⟨hkey, rfl, hpost⟩ | ⟨-, hpost⟩
    . exact .released hkey h hpost
    . exact .same hpost
  | refund h =>
    rcases h.settled.cases hescrow with ⟨hkey, rfl, hpost⟩ | ⟨-, hpost⟩
    . exact .refunded hkey h hpost
    . exact .same hpost

theorem Step.escrow_some {s s' : State Pubkey} {a : Action Pubkey} (hstep : Step s a s')
    {key : Pubkey} {escrow : Escrow Pubkey} (hescrow : s.escrow key = some escrow) :
    ∃ status, s'.escrow key = some { escrow with status } := by
  cases hstep.escrow_evolves hescrow with
  | same h => exact ⟨escrow.status, h⟩
  | released _ _ h => exact ⟨_, h⟩
  | refunded _ _ h => exact ⟨_, h⟩

theorem Reachable.escrow_of_token {s : State Pubkey} (h : Reachable s) {key : Pubkey}
    (htoken : s.token (address (.escrowToken key)) ≠ none) : ∃ escrow, s.escrow key = some escrow := by
  induction h using Reachable.induction with
  | empty => simp [State.empty] at htoken
  | step s a s' hreach hstep ih =>
    by_cases hnone : s.token (address (.escrowToken key)) = none
    . obtain ⟨ix, now, account, rfl, hopened⟩ :=
        hstep.opened_of_token hreach (isProgramAddress_address _) hnone htoken
      obtain ⟨event, -, heffect⟩ := hstep.effect
      cases heffect with
      | registerAsset h =>
        simp [Instruction.opened, h.tokenKey_eq] at hopened
      | createEscrow _ h =>
        simp only [Instruction.opened, h.tokenKey_eq, Option.some.injEq, Prod.mk.injEq, address_inj,
          Seeds.escrowToken.injEq] at hopened
        rw [h.post_eq, ← hopened.1]
        exact ⟨_, Function.update_self ..⟩
      | _ => simp [Instruction.opened] at hopened
    . obtain ⟨escrow, hescrow⟩ := ih hnone
      obtain ⟨status, hescrow'⟩ := hstep.escrow_some hescrow
      exact ⟨_, hescrow'⟩

def State.Guarded (s : State Pubkey) (key : Pubkey) : Prop :=
  s.token key ≠ none → ∃ owner mint tokenProgram, s.Custody key owner mint tokenProgram

theorem Reachable.guarded_vaultToken {s : State Pubkey} (h : Reachable s) (v m : Pubkey) :
    s.Guarded (address (.vaultToken v m)) := by
  intro htoken
  obtain ⟨asset, hasset, rfl, rfl⟩ := h.asset_of_token htoken
  exact ⟨_, _, _, h.custody_of_asset hasset⟩

theorem Reachable.guarded_escrowToken {s : State Pubkey} (h : Reachable s) (key : Pubkey) :
    s.Guarded (address (.escrowToken key)) := by
  intro htoken
  obtain ⟨escrow, hescrow⟩ := h.escrow_of_token htoken
  exact ⟨_, _, _, h.custody_of_escrow hescrow⟩

inductive CustodyOutflow (s : State Pubkey) (now : Int64) (s' : State Pubkey) :
    Instruction Pubkey → Transfer Pubkey → Prop where
  | release {ctx : ReleaseEscrow Pubkey} {event : IronVaultEvent Pubkey} {escrow : Escrow Pubkey}
      (h : ctx.Accepted s now s' event escrow) :
      CustodyOutflow s now s' (.releaseEscrow ctx)
        ⟨ctx.escrowToken, ctx.recipientToken, escrow.amount⟩
  | refund {ctx : RefundEscrow Pubkey} {event : IronVaultEvent Pubkey} {escrow : Escrow Pubkey}
      (h : ctx.Accepted s now s' event escrow) :
      CustodyOutflow s now s' (.refundEscrow ctx)
        ⟨ctx.escrowToken, ctx.makerDestination, escrow.amount⟩
  | withdraw {ctx : Withdraw Pubkey} {amount : UInt64} {event : IronVaultEvent Pubkey}
      {vault : Vault Pubkey} {asset : VaultAsset Pubkey} {next : Int64 × UInt64}
      (h : ctx.Accepted s amount now s' event vault asset next) :
      CustodyOutflow s now s' (.withdraw ctx amount) ⟨ctx.vaultToken, ctx.destinationToken, amount⟩
  | execute {ctx : ExecuteWithdrawal Pubkey} {event : IronVaultEvent Pubkey} {vault : Vault Pubkey}
      {asset : VaultAsset Pubkey} {request : WithdrawalRequest Pubkey} {next : Int64 × UInt64}
      (h : ctx.Accepted s now s' event vault asset request next) :
      CustodyOutflow s now s' (.executeWithdrawal ctx)
        ⟨ctx.vaultToken, ctx.recipientToken, request.amount⟩

namespace State.Guarded

variable {s s' : State Pubkey} {key : Pubkey}

theorem ne_of_owner (h : s.Guarded key) {k owner : Pubkey} (hsigner : ¬ IsProgramAddress owner)
    (haccount : ∃ account, s.token k = some account ∧ account.owner = owner) : k ≠ key := by
  rintro rfl
  obtain ⟨account, haccount, rfl⟩ := haccount
  obtain ⟨_, _, _, hcustody⟩ := h (by simp [haccount])
  rw [hcustody.owner_eq haccount] at hsigner
  exact hsigner hcustody.owner_address

theorem outflow (hguard : s.Guarded key) {ix : Instruction Pubkey} {now : Int64}
    {event : Option (IronVaultEvent Pubkey)} (h : Effect s (.instruction ix now) s' event)
    {x : Transfer Pubkey}
    (htransfer : ix.transfer s = some x) (hsource : x.source = key) :
    CustodyOutflow s now s' ix x := by
  cases h with
  | createEscrow hsigner h =>
    simp only [Instruction.transfer, Option.some.injEq] at htransfer
    subst htransfer
    exact absurd hsource (hguard.ne_of_owner hsigner h.makerToken_owner)
  | deposit hsigner h =>
    simp only [Instruction.transfer, Option.some.injEq] at htransfer
    subst htransfer
    exact absurd hsource (hguard.ne_of_owner hsigner h.source_owner)
  | releaseEscrow h =>
    rw [Instruction.transfer_releaseEscrow h.settled.escrow_eq, Option.some.injEq] at htransfer
    rw [← htransfer]
    exact .release h
  | refundEscrow h =>
    rw [Instruction.transfer_refundEscrow h.settled.escrow_eq, Option.some.injEq] at htransfer
    rw [← htransfer]
    exact .refund h
  | withdraw h =>
    simp only [Instruction.transfer, Option.some.injEq] at htransfer
    rw [← htransfer]
    exact .withdraw h
  | executeWithdrawal h =>
    rw [Instruction.transfer_executeWithdrawal h.request_eq, Option.some.injEq] at htransfer
    rw [← htransfer]
    exact .execute h
  | _ => simp [Instruction.transfer] at htransfer

theorem le_thirdParty (hguard : s.Guarded key) {token' : Pubkey → Option (TokenAccount Pubkey)}
    {mint' : Pubkey → Option (Mint Pubkey)} (hthird : ThirdParty s token' mint') :
    s.balance key ≤ balanceOf token' key := by
  by_cases htoken : s.token key = none
  . simp [State.balance, balanceOf, htoken]
  . obtain ⟨_, _, _, hcustody⟩ := hguard htoken
    exact (hcustody.thirdParty hthird).2

theorem outflow_of_lt (hguard : s.Guarded key) {a : Action Pubkey} (hs : Reachable s)
    (hstep : Step s a s') (hlt : s'.balance key < s.balance key) :
    ∃ ix now x, a = .instruction ix now ∧ ix.transfer s = some x ∧ x.source = key ∧
      s.balance key = s'.balance key + x.amount.toNat ∧ CustodyOutflow s now s' ix x := by
  cases a with
  | thirdParty =>
    cases hstep with
    | thirdParty hthird =>
      have hle := hguard.le_thirdParty hthird
      simp only [State.balance] at hlt hle
      omega
  | instruction ix now =>
    have hledger := hstep.ledger hs
    have hbalance := hledger.balance_add key
    cases htransfer : ix.transfer s with
    | none =>
      simp only [Instruction.debit, Instruction.credit, htransfer] at hbalance
      omega
    | some x =>
      have hne := (hledger.moved htransfer).ne
      simp only [Instruction.debit, Instruction.credit, htransfer] at hbalance
      split at hbalance
      . next hsource =>
        rw [if_neg (by rw [hsource]; exact hne)] at hbalance
        obtain ⟨_, -, heffect⟩ := hstep.effect
        exact ⟨ix, now, x, rfl, htransfer, hsource.symm, by omega,
          hguard.outflow heffect htransfer hsource.symm⟩
      . omega

end State.Guarded

end IronVault
