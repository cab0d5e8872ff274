import Mathlib.Algebra.BigOperators.Group.Finset.Piecewise
import IronVault.Program.Lemmas.Ledger
import IronVault.Program.Symbolic

/-!
This module contains that an instruction that moves tokens moves them between two different accounts,
whatever accounts it is given, and that nothing is charged or settled otherwise.
-/

namespace IronVault

variable {Pubkey : Type} [DecidableEq Pubkey] [Solana Pubkey]

section Total

def mintBalance (token : Pubkey → Option (TokenAccount Pubkey)) (mint key : Pubkey) : Nat :=
  match token key with
  | some account => if account.mint = mint then account.amount.toNat else 0
  | none => 0

def mintTotal (token : Pubkey → Option (TokenAccount Pubkey)) (keys : Finset Pubkey)
    (mint : Pubkey) : Nat :=
  keys.sum (mintBalance token mint)

def SameMint (token : Pubkey → Option (TokenAccount Pubkey)) (source destination : Pubkey) : Prop :=
  ∃ src dst, token source = some src ∧ token destination = some dst ∧ src.mint = dst.mint

variable {token token' : Pubkey → Option (TokenAccount Pubkey)} {source destination : Pubkey}
  {amount : UInt64}

omit [Solana Pubkey] in
theorem Moves.of_ne (h : Moves token source destination amount token') {key : Pubkey}
    (hsource : key ≠ source) (hdestination : key ≠ destination) : token' key = token key := by
  obtain ⟨-, src, src', dst, -, -, -, -, -, rfl⟩ := h
  rw [Function.update_of_ne hdestination, Function.update_of_ne hsource]

omit [Solana Pubkey] in
theorem Moves.mintBalance_add (h : Moves token source destination amount token')
    (hmint : SameMint token source destination) (mint : Pubkey) :
    ∃ moved, ∀ key, mintBalance token' mint key + (if key = source then moved else 0)
      = mintBalance token mint key + (if key = destination then moved else 0) := by
  -- `moved` is zero for a mint that is not the one of the two accounts
  obtain ⟨hne, src, src', dst, hsrc, hdst, hdebit, -, hroom, rfl⟩ := h
  obtain ⟨_, _, hsrc', hdst', hsame⟩ := hmint
  rw [hsrc, Option.some.injEq] at hsrc'
  rw [hdst, Option.some.injEq] at hdst'
  subst hsrc' hdst'
  have hsum := UInt64.toNat_add dst.amount amount
  rw [Nat.mod_eq_of_lt hroom] at hsum
  have hamount := hdebit.amount
  refine ⟨if src.mint = mint then amount.toNat else 0, fun key => ?_⟩
  unfold mintBalance
  by_cases hd : key = destination
  . subst hd
    rw [Function.update_self, hdst, if_neg hne.symm, if_pos rfl]
    dsimp only
    rw [← hsame, hsum]
    split <;> omega
  . rw [Function.update_of_ne hd, if_neg hd]
    by_cases hs : key = source
    . subst hs
      rw [Function.update_self, hsrc, if_pos rfl]
      dsimp only
      rw [hdebit.mint]
      split <;> omega
    . rw [Function.update_of_ne hs, if_neg hs]

omit [Solana Pubkey] in
theorem Moves.mintTotal_eq (h : Moves token source destination amount token')
    (hmint : SameMint token source destination) {keys : Finset Pubkey} (hsource : source ∈ keys)
    (hdestination : destination ∈ keys) (mint : Pubkey) :
    mintTotal token' keys mint = mintTotal token keys mint := by
  obtain ⟨moved, hadd⟩ := h.mintBalance_add hmint mint
  have hsum : keys.sum (fun key => mintBalance token' mint key + if key = source then moved else 0)
      = keys.sum fun key => mintBalance token mint key + if key = destination then moved else 0 := by
    apply Finset.sum_congr rfl
    intro key _
    exact hadd key
  rw [Finset.sum_add_distrib, Finset.sum_add_distrib, Finset.sum_ite_eq', Finset.sum_ite_eq',
    if_pos hsource, if_pos hdestination] at hsum
  exact Nat.add_right_cancel hsum

end Total

/-!
Both accounts of a transfer have the mint that the instruction names.
-/
section Mints

variable {s s' : State Pubkey} {now : Int64} {event : IronVaultEvent Pubkey}

theorem CreateEscrow.create_sameMint {ctx : CreateEscrow Pubkey} {escrowId : UInt64}
    {recipient : Pubkey} {amount : UInt64} {expiresAt : Int64}
    (h : ctx.create s escrowId recipient amount expiresAt now = .ok (s', event)) :
    SameMint (Function.update s.token ctx.escrowToken
      (some (.initializeAccount ctx.tokenProgram ctx.mint ctx.escrow)))
      ctx.makerToken ctx.escrowToken := by
  have hne := (create_ok h).moves.ne
  simp only [create, Except.bind_eq_ok_iff, checkTokenProgram_eq_ok, State.loadProtocolConfig_eq_ok,
    State.loadMint_eq_ok, State.loadOwnedToken_eq_ok] at h
  obtain ⟨-, -, config, -, mint, -, makerToken, ⟨hmaker, -, hmint, -⟩, -⟩ := h
  refine ⟨makerToken, .initializeAccount ctx.tokenProgram ctx.mint ctx.escrow, ?_,
    Function.update_self .., hmint⟩
  rw [Function.update_of_ne hne, hmaker]

theorem ReleaseEscrow.release_sameMint {ctx : ReleaseEscrow Pubkey}
    (h : ctx.release s now = .ok (s', event)) :
    SameMint s.token ctx.escrowToken ctx.recipientToken := by
  simp only [release, Except.bind_eq_ok_iff, checkTokenProgram_eq_ok,
    State.loadProtocolConfig_eq_ok, State.loadEscrow_eq_ok, State.loadMint_eq_ok,
    State.loadCustody_eq_ok, State.loadOwnedToken_eq_ok, require_eq_ok, exists_const] at h
  obtain ⟨-, config, -, escrow, -, -, -, -, mint, -, custody, ⟨-, hcustody, -, hmint, -⟩,
    recipient, ⟨hrecipient, -, hmint', -⟩, -⟩ := h
  exact ⟨custody, recipient, hcustody, hrecipient, by rw [hmint, hmint']⟩

theorem RefundEscrow.refund_sameMint {ctx : RefundEscrow Pubkey}
    (h : ctx.refund s now = .ok (s', event)) :
    SameMint s.token ctx.escrowToken ctx.makerDestination := by
  simp only [refund, Except.bind_eq_ok_iff, checkTokenProgram_eq_ok, State.loadEscrow_eq_ok,
    State.loadMint_eq_ok, State.loadCustody_eq_ok, State.loadOwnedToken_eq_ok, require_eq_ok,
    exists_const] at h
  obtain ⟨-, escrow, -, -, -, mint, -, custody, ⟨-, hcustody, -, hmint, -⟩, destination,
    ⟨hdestination, -, hmint', -⟩, -⟩ := h
  exact ⟨custody, destination, hcustody, hdestination, by rw [hmint, hmint']⟩

theorem Deposit.depositTokens_sameMint {ctx : Deposit Pubkey} {amount : UInt64}
    (h : ctx.depositTokens s amount = .ok (s', event)) :
    SameMint s.token ctx.sourceToken ctx.vaultToken := by
  simp only [depositTokens, Except.bind_eq_ok_iff, checkTokenProgram_eq_ok, State.loadVault_eq_ok,
    State.loadMint_eq_ok, State.loadVaultAsset_eq_ok, State.loadOwnedToken_eq_ok,
    State.loadCustody_eq_ok, require_eq_ok, exists_const] at h
  obtain ⟨-, -, -, mint, -, asset, -, -, source, ⟨hsource, -, hmint, -⟩, custody,
    ⟨-, hcustody, -, hmint', -⟩, -⟩ := h
  exact ⟨source, custody, hsource, hcustody, by rw [hmint, hmint']⟩

theorem Withdraw.withdrawTokens_sameMint {ctx : Withdraw Pubkey} {amount : UInt64}
    (h : ctx.withdrawTokens s amount now = .ok (s', event)) :
    SameMint s.token ctx.vaultToken ctx.destinationToken := by
  simp only [withdrawTokens, Except.bind_eq_ok_iff, checkTokenProgram_eq_ok,
    State.loadProtocolConfig_eq_ok, State.loadVault_eq_ok, State.loadMint_eq_ok,
    State.loadVaultAsset_eq_ok, State.loadCustody_eq_ok, State.loadToken_eq_ok, require_eq_ok,
    exists_const] at h
  obtain ⟨-, config, -, vault, -, mint, -, asset, -, -, custody, ⟨-, hcustody, -, hmint, -⟩,
    destination, ⟨hdestination, -, hmint', -⟩, -⟩ := h
  exact ⟨custody, destination, hcustody, hdestination, by rw [hmint, hmint']⟩

theorem ExecuteWithdrawal.execute_sameMint {ctx : ExecuteWithdrawal Pubkey}
    (h : ctx.execute s now = .ok (s', event)) :
    SameMint s.token ctx.vaultToken ctx.recipientToken := by
  simp only [execute, Except.bind_eq_ok_iff, checkTokenProgram_eq_ok,
    State.loadProtocolConfig_eq_ok, State.loadVault_eq_ok, State.loadMint_eq_ok,
    State.loadVaultAsset_eq_ok, State.loadWithdrawalRequest_eq_ok, State.loadCustody_eq_ok,
    State.loadOwnedToken_eq_ok, require_eq_ok, exists_const] at h
  obtain ⟨-, config, -, vault, -, mint, -, asset, -, -, request, -, -, hrequestMint, -, custody,
    ⟨-, hcustody, -, hmint, -⟩, -, recipient, ⟨hrecipient, -, hmint', -⟩, -⟩ := h
  exact ⟨custody, recipient, hcustody, hrecipient, by rw [hmint, hmint', hrequestMint]⟩

end Mints

structure TwoAccountEffect (s : State Pubkey) (x : Transfer Pubkey) (s' : State Pubkey) : Prop where
  ne : x.source ≠ x.destination
  source_changes : s'.token x.source ≠ s.token x.source
  destination_changes : s'.token x.destination ≠ s.token x.destination
  source_add : s'.balance x.source + x.amount.toNat = s.balance x.source
  destination_eq : s'.balance x.destination = s.balance x.destination + x.amount.toNat
  destination_lt : s.balance x.destination + x.amount.toNat < 2 ^ 64
  other {key : Pubkey} : key ≠ x.source → key ≠ x.destination → s'.token key = s.token key
  total {keys : Finset Pubkey} : x.source ∈ keys → x.destination ∈ keys → ∀ mint,
    mintTotal s'.token keys mint = mintTotal s.token keys mint

omit [DecidableEq Pubkey] [Solana Pubkey] in
theorem State.balance_lt (s : State Pubkey) (key : Pubkey) : s.balance key < 2 ^ 64 := by
  unfold State.balance balanceOf
  cases s.token key with
  | none => simp
  | some account => exact account.amount.toNat_lt

omit [Solana Pubkey] in
theorem TwoAccountEffect.of_moves {s s' : State Pubkey} {x : Transfer Pubkey}
    {token : Pubkey → Option (TokenAccount Pubkey)}
    (hmoves : Moves token x.source x.destination x.amount s'.token)
    (hmint : SameMint token x.source x.destination) (hpos : 0 < x.amount)
    (hbalance : ∀ key, balanceOf token key = s.balance key)
    (hmintBalance : ∀ mint, mintBalance token mint = mintBalance s.token mint)
    (hother : ∀ key, key ≠ x.destination → token key = s.token key) : TwoAccountEffect s x s' := by
  rw [UInt64.lt_iff_toNat_lt] at hpos
  have hsource : s'.balance x.source + x.amount.toNat = s.balance x.source := by
    have hadd := hmoves.balanceOf_add x.source
    rw [if_pos rfl, if_neg hmoves.ne, hbalance, Nat.add_zero] at hadd
    exact hadd
  have hdestination : s'.balance x.destination = s.balance x.destination + x.amount.toNat := by
    have hadd := hmoves.balanceOf_add x.destination
    rw [if_neg hmoves.ne.symm, if_pos rfl, hbalance, Nat.add_zero] at hadd
    exact hadd
  -- an account that stays as it is keeps its balance
  have hchanges {key : Pubkey} (hne : s'.balance key ≠ s.balance key) :
      s'.token key ≠ s.token key := by
    intro heq
    apply hne
    unfold State.balance balanceOf
    rw [heq]
  refine ⟨hmoves.ne, hchanges ?_, hchanges ?_, hsource, hdestination, ?_, ?_, ?_⟩
  . simp only [UInt64.toNat_zero] at hpos
    omega
  . simp only [UInt64.toNat_zero] at hpos
    omega
  . rw [← hdestination]
    exact s'.balance_lt x.destination
  . intro key hs hd
    rw [hmoves.of_ne hs hd, hother key hd]
  . intro keys hs hd mint
    rw [hmoves.mintTotal_eq hmint hs hd mint]
    unfold mintTotal
    rw [hmintBalance]

def Instruction.movesTokens : Instruction Pubkey → Bool
  | .createEscrow .. => true
  | .releaseEscrow .. => true
  | .refundEscrow .. => true
  | .deposit .. => true
  | .withdraw .. => true
  | .executeWithdrawal .. => true
  | _ => false

omit [DecidableEq Pubkey] [Solana Pubkey] in
theorem movesTokens_of_transfer {s : State Pubkey} {ix : Instruction Pubkey} {x : Transfer Pubkey}
    (h : ix.transfer s = some x) : ix.movesTokens = true := by
  cases ix <;> first | rfl | cases h

/--
The amounts of escrows and of withdrawal requests are checked when these are created.
-/
structure State.PositiveAmounts (s : State Pubkey) : Prop where
  escrow {key : Pubkey} {escrow : Escrow Pubkey} : s.escrow key = some escrow → 0 < escrow.amount
  withdrawalRequest {key : Pubkey} {request : WithdrawalRequest Pubkey} :
    s.withdrawalRequest key = some request → 0 < request.amount

theorem Reachable.positiveAmounts {s : State Pubkey} (h : Reachable s) : s.PositiveAmounts where
  escrow hescrow := (h.escrow hescrow).amount_pos
  withdrawalRequest hrequest := (h.withdrawalRequest hrequest).amount_pos

section Effect

variable {s s' : State Pubkey} {now : Int64} {ix : Instruction Pubkey}
  {event : Option (IronVaultEvent Pubkey)}

theorem CreateEscrow.Accepted.twoAccountEffect {ctx : CreateEscrow Pubkey} {escrowId : UInt64}
    {recipient : Pubkey} {amount : UInt64} {expiresAt : Int64} {event : IronVaultEvent Pubkey}
    (h : ctx.Accepted s escrowId recipient amount expiresAt now s' event)
    (hmint : SameMint (Function.update s.token ctx.escrowToken
      (some (.initializeAccount ctx.tokenProgram ctx.mint ctx.escrow)))
      ctx.makerToken ctx.escrowToken) :
    TwoAccountEffect s ⟨ctx.makerToken, ctx.escrowToken, amount⟩ s' := by
  have hnone : s.token ctx.escrowToken = none := (State.vacant_of_unallocated h.token_fresh).token
  apply TwoAccountEffect.of_moves h.moves hmint h.amount_pos
  . -- the custody account is opened without tokens
    intro key
    rw [balanceOf_update]
    split
    . next heq => simp [heq, State.balance, balanceOf, hnone, TokenAccount.initializeAccount]
    . rfl
  . intro mint
    funext key
    unfold mintBalance
    by_cases heq : key = ctx.escrowToken
    . rw [heq, Function.update_self, hnone]
      simp [TokenAccount.initializeAccount]
    . rw [Function.update_of_ne heq]
  . intro key hne
    exact Function.update_of_ne hne ..

theorem process_twoAccountEffect (hpositive : s.PositiveAmounts)
    (hok : process s now ix = .ok (s', event)) (hix : ix.movesTokens = true) :
    ∃ x, ix.transfer s = some x ∧ TwoAccountEffect s x s' := by
  cases ix with
  | createEscrow =>
    obtain ⟨e, -, hcall⟩ := process.emit_eq_ok.mp hok
    have hmint := CreateEscrow.create_sameMint hcall
    exact ⟨_, rfl, (CreateEscrow.create_ok hcall).twoAccountEffect hmint⟩
  | releaseEscrow =>
    obtain ⟨e, -, hcall⟩ := process.emit_eq_ok.mp hok
    obtain ⟨escrow, h⟩ := ReleaseEscrow.release_ok hcall
    have hpos := hpositive.escrow h.settled.escrow_eq
    refine ⟨_, Instruction.transfer_releaseEscrow h.settled.escrow_eq, ?_⟩
    exact .of_moves (h.settled.moves hpos) (ReleaseEscrow.release_sameMint hcall) hpos
      (fun _ => rfl) (fun _ => rfl) fun _ _ => rfl
  | refundEscrow =>
    obtain ⟨e, -, hcall⟩ := process.emit_eq_ok.mp hok
    obtain ⟨escrow, h⟩ := RefundEscrow.refund_ok hcall
    have hpos := hpositive.escrow h.settled.escrow_eq
    refine ⟨_, Instruction.transfer_refundEscrow h.settled.escrow_eq, ?_⟩
    exact .of_moves (h.settled.moves hpos) (RefundEscrow.refund_sameMint hcall) hpos
      (fun _ => rfl) (fun _ => rfl) fun _ _ => rfl
  | deposit =>
    obtain ⟨e, -, hcall⟩ := process.emit_eq_ok.mp hok
    obtain ⟨asset, h⟩ := Deposit.depositTokens_ok hcall
    refine ⟨_, rfl, ?_⟩
    exact .of_moves h.moves (Deposit.depositTokens_sameMint hcall) h.amount_pos
      (fun _ => rfl) (fun _ => rfl) fun _ _ => rfl
  | withdraw =>
    obtain ⟨e, -, hcall⟩ := process.emit_eq_ok.mp hok
    obtain ⟨vault, asset, next, h⟩ := Withdraw.withdrawTokens_ok hcall
    refine ⟨_, rfl, ?_⟩
    exact .of_moves (h.outflow.moves h.amount_pos) (Withdraw.withdrawTokens_sameMint hcall)
      h.amount_pos (fun _ => rfl) (fun _ => rfl) fun _ _ => rfl
  | executeWithdrawal =>
    obtain ⟨e, -, hcall⟩ := process.emit_eq_ok.mp hok
    obtain ⟨vault, asset, request, next, h⟩ := ExecuteWithdrawal.execute_ok hcall
    have hpos := hpositive.withdrawalRequest h.request_eq
    refine ⟨_, Instruction.transfer_executeWithdrawal h.request_eq, ?_⟩
    exact .of_moves (h.outflow.moves hpos) (ExecuteWithdrawal.execute_sameMint hcall) hpos
      (fun _ => rfl) (fun _ => rfl) fun _ _ => rfl
  | _ => simp [Instruction.movesTokens] at hix

/--
The step increases the spend of a window, or writes that an escrow or a request was paid out.
-/
inductive Settles (s s' : State Pubkey) : Prop where
  | window {key : Pubkey} {asset asset' : VaultAsset Pubkey} (h : s.vaultAsset key = some asset)
      (h' : s'.vaultAsset key = some asset') (hlt : asset.windowSpent < asset'.windowSpent)
  | escrow {key : Pubkey} {escrow : Escrow Pubkey} (h : s.escrow key ≠ some escrow)
      (h' : s'.escrow key = some escrow)
      (hstatus : escrow.status = .released ∨ escrow.status = .refunded)
  | withdrawalRequest {key : Pubkey} {request : WithdrawalRequest Pubkey}
      (h : s.withdrawalRequest key ≠ some request) (h' : s'.withdrawalRequest key = some request)
      (hstatus : request.status = .executed)

omit [DecidableEq Pubkey] [Solana Pubkey] in
theorem not_settles_of
    (hasset : ∀ key asset asset', s.vaultAsset key = some asset → s'.vaultAsset key = some asset' →
      asset'.windowSpent ≤ asset.windowSpent)
    (hescrow : s'.escrow = s.escrow)
    (hrequest : ∀ key request, s'.withdrawalRequest key = some request →
      s.withdrawalRequest key = some request ∨ request.status ≠ .executed) : ¬ Settles s s' := by
  intro h
  cases h with
  | window h h' hlt => exact UInt64.not_lt.mpr (hasset _ _ _ h h') hlt
  | escrow h h' => exact h (hescrow ▸ h')
  | withdrawalRequest h h' hstatus =>
    rcases hrequest _ _ h' with hsame | hne
    . exact h hsame
    . exact hne hstatus

omit [DecidableEq Pubkey] [Solana Pubkey] in
theorem windowSpent_le_of_eq (h : s'.vaultAsset = s.vaultAsset) (key : Pubkey)
    (asset asset' : VaultAsset Pubkey) (hpre : s.vaultAsset key = some asset)
    (hpost : s'.vaultAsset key = some asset') : asset'.windowSpent ≤ asset.windowSpent := by
  rw [h, hpre, Option.some.injEq] at hpost
  rw [hpost]
  exact UInt64.le_refl _

omit [DecidableEq Pubkey] [Solana Pubkey] in
theorem not_settles_of_frame (hasset : s'.vaultAsset = s.vaultAsset) (hescrow : s'.escrow = s.escrow)
    (hrequest : s'.withdrawalRequest = s.withdrawalRequest) : ¬ Settles s s' := by
  apply not_settles_of (windowSpent_le_of_eq hasset) hescrow
  intro key request h
  left
  rw [← hrequest, h]

omit [Solana Pubkey] in
theorem not_settles_of_request {key : Pubkey} {request : WithdrawalRequest Pubkey}
    (hasset : s'.vaultAsset = s.vaultAsset) (hescrow : s'.escrow = s.escrow)
    (hrequest : s'.withdrawalRequest = Function.update s.withdrawalRequest key (some request))
    (hstatus : request.status ≠ .executed) : ¬ Settles s s' := by
  apply not_settles_of (windowSpent_le_of_eq hasset) hescrow
  intro k written h
  rw [hrequest, Function.update_some_eq_some] at h
  rcases h with ⟨-, rfl⟩ | ⟨-, h⟩
  . exact .inr hstatus
  . exact .inl h

omit [Solana Pubkey] in
theorem not_settles_of_asset {key : Pubkey} {written : VaultAsset Pubkey}
    (hasset : s'.vaultAsset = Function.update s.vaultAsset key (some written))
    (hspent : ∀ asset, s.vaultAsset key = some asset → written.windowSpent ≤ asset.windowSpent)
    (hescrow : s'.escrow = s.escrow) (hrequest : s'.withdrawalRequest = s.withdrawalRequest) :
    ¬ Settles s s' := by
  apply not_settles_of _ hescrow
  . intro k request h
    left
    rw [← hrequest, h]
  . intro k asset asset' hpre hpost
    rw [hasset, Function.update_some_eq_some] at hpost
    rcases hpost with ⟨rfl, rfl⟩ | ⟨-, hpost⟩
    . exact hspent asset hpre
    . rw [hpre, Option.some.injEq] at hpost
      rw [hpost]
      exact UInt64.le_refl _

theorem RegisterAsset.Accepted.not_settles {ctx : RegisterAsset Pubkey} {vault : Vault Pubkey}
    {event : IronVaultEvent Pubkey} (h : ctx.Accepted s now s' event vault) : ¬ Settles s s' := by
  have hnone : s.vaultAsset ctx.vaultAsset = none := (State.vacant_of_unallocated h.fresh).vaultAsset
  apply not_settles_of_asset (by rw [h.post_eq]) _ (by rw [h.post_eq]) (by rw [h.post_eq])
  intro asset hasset
  rw [hnone] at hasset
  contradiction

theorem UpdateLimits.Accepted.not_settles {ctx : UpdateLimits Pubkey} {policy : Policy}
    {vault : Vault Pubkey} {asset : VaultAsset Pubkey} {window : Int64 × UInt64}
    {event : IronVaultEvent Pubkey} (h : ctx.Accepted s policy now s' event vault asset window) :
    ¬ Settles s s' := by
  -- a new window starts at zero, and an old one goes on as it is
  have hspent : window.2 ≤ asset.windowSpent := by
    rcases UpdateLimits.nextWindow_ok h.window_ok with
      ⟨-, rfl⟩ | ⟨-, -, -, rfl⟩ | ⟨-, -, rfl⟩
    . exact UInt64.zero_le
    . exact UInt64.zero_le
    . exact UInt64.le_refl _
  apply not_settles_of_asset (by rw [h.post_eq]) _ (by rw [h.post_eq]) (by rw [h.post_eq])
  intro loaded hloaded
  rw [h.asset_eq, Option.some.injEq] at hloaded
  rw [← hloaded]
  exact hspent

theorem process_not_settles (hok : process s now ix = .ok (s', event))
    (hix : ix.movesTokens = false) : ¬ Settles s s' := by
  cases ix with
  | dispatch =>
    obtain ⟨rfl, -⟩ := process_accepted hok
    exact not_settles_of_frame rfl rfl rfl
  | initializeProtocol =>
    obtain ⟨_, -, h⟩ := process_accepted hok
    exact not_settles_of_frame (by rw [h.post_eq]) (by rw [h.post_eq]) (by rw [h.post_eq])
  | setProtocolPause =>
    obtain ⟨_, -, _, h⟩ := process_accepted hok
    exact not_settles_of_frame (by rw [h.post_eq]) (by rw [h.post_eq]) (by rw [h.post_eq])
  | createVault =>
    obtain ⟨_, -, h⟩ := process_accepted hok
    exact not_settles_of_frame (by rw [h.post_eq]) (by rw [h.post_eq]) (by rw [h.post_eq])
  | setVaultAuthority =>
    obtain ⟨_, -, _, h⟩ := process_accepted hok
    exact not_settles_of_frame (by rw [h.post_eq]) (by rw [h.post_eq]) (by rw [h.post_eq])
  | pauseVault =>
    obtain ⟨_, -, _, h⟩ := process_accepted hok
    exact not_settles_of_frame (by rw [h.post_eq]) (by rw [h.post_eq]) (by rw [h.post_eq])
  | unpauseVault =>
    obtain ⟨_, -, _, h⟩ := process_accepted hok
    exact not_settles_of_frame (by rw [h.post_eq]) (by rw [h.post_eq]) (by rw [h.post_eq])
  | grantRole =>
    obtain ⟨_, -, _, h⟩ := process_accepted hok
    exact not_settles_of_frame (by rw [h.post_eq]) (by rw [h.post_eq]) (by rw [h.post_eq])
  | revokeRole =>
    obtain ⟨_, -, _, _, h⟩ := process_accepted hok
    exact not_settles_of_frame (by rw [h.post_eq]) (by rw [h.post_eq]) (by rw [h.post_eq])
  | registerAsset =>
    obtain ⟨_, -, _, h⟩ := process_accepted hok
    exact h.not_settles
  | updateLimits =>
    obtain ⟨_, -, _, _, _, h⟩ := process_accepted hok
    exact h.not_settles
  | requestWithdrawal =>
    obtain ⟨_, -, _, _, _, _, _, _, h⟩ := process_accepted hok
    apply not_settles_of_request (by rw [h.post_eq]) (by rw [h.post_eq]) (by rw [h.post_eq])
    simp
  | cancelWithdrawal =>
    obtain ⟨_, -, _, _, h⟩ := process_accepted hok
    apply not_settles_of_request (by rw [h.post_eq]) (by rw [h.post_eq]) (by rw [h.post_eq])
    simp
  | _ => simp [Instruction.movesTokens] at hix

end Effect

/--
Every choice of accounts: tokens move between two different accounts, by exactly the amount, and
nothing is charged or settled without that. The amounts are positive in every reachable state.
-/
theorem exact_two_account_effect :
    (∀ s : State Pubkey, Reachable s → s.PositiveAmounts) ∧
    ∀ s : State Pubkey, s.PositiveAmounts → ∀ now ix,
      (∀ s' event, process s now ix = .ok (s', event) → ix.movesTokens = true ∨ Settles s s' →
        ∃ x, ix.transfer s = some x ∧ TwoAccountEffect s x s') ∧
      ∀ x, ix.transfer s = some x → x.source = x.destination → ∃ e, process s now ix = .error e := by
  refine ⟨fun s hs => hs.positiveAmounts, ?_⟩
  intro s hpositive now ix
  have hmoves {s' : State Pubkey} {event : Option (IronVaultEvent Pubkey)}
      (hok : process s now ix = .ok (s', event)) (hix : ix.movesTokens = true ∨ Settles s s') :
      ∃ x, ix.transfer s = some x ∧ TwoAccountEffect s x s' := by
    apply process_twoAccountEffect hpositive hok
    rcases hix with hix | hsettles
    . exact hix
    . by_contra hnot
      rw [Bool.not_eq_true] at hnot
      exact process_not_settles hok hnot hsettles
  refine ⟨fun s' event hok hix => hmoves hok hix, ?_⟩
  intro x hx heq
  cases hprocess : process s now ix with
  | error e => exact ⟨e, rfl⟩
  | ok result =>
    obtain ⟨x', hx', heffect⟩ := hmoves hprocess (.inl (movesTokens_of_transfer hx))
    rw [hx, Option.some.injEq] at hx'
    subst hx'
    exact absurd heq heffect.ne

namespace Scenario

def releaseEscrow : Instruction Key :=
  .releaseEscrow ⟨authority, .protocol, .escrow authority 7, mint,
    .escrowToken (.escrow authority 7), recipientToken, tokenProgram⟩

def escrowedState : State Key :=
  start.final (released.take 2)

/--
The state in which the escrow was created, but with an escrow of nothing.
-/
def emptied : State Key :=
  { escrowedState with
    escrow := fun key => (escrowedState.escrow key).map fun escrow => { escrow with amount := 0 } }

end Scenario

open Scenario

theorem exact_two_account_effect_released :
    Reachable escrowedState ∧ ∃ s' event, process escrowedState 99 releaseEscrow = .ok (s', event) ∧
      TwoAccountEffect escrowedState ⟨.escrowToken (.escrow authority 7), recipientToken, 40⟩ s' := by
  have hreachable : Reachable escrowedState := ⟨_, history_trace (released.take 2) (by decide +kernel)⟩
  have heffect := (exact_two_account_effect.2 escrowedState
    (exact_two_account_effect.1 escrowedState hreachable) 99 releaseEscrow).1
  have hok : (process escrowedState 99 releaseEscrow).toOption.isSome := by decide +kernel
  cases hprocess : process escrowedState 99 releaseEscrow with
  | error e => simp [hprocess, Except.toOption] at hok
  | ok result =>
    obtain ⟨x, hx, heffect⟩ := heffect result.1 result.2 hprocess (.inl rfl)
    have htransfer : releaseEscrow.transfer escrowedState
        = some ⟨.escrowToken (.escrow authority 7), recipientToken, 40⟩ := by rfl
    rw [hx, Option.some.injEq] at htransfer
    rw [← htransfer]
    exact ⟨hreachable, result.1, result.2, rfl, heffect⟩

theorem zero_amount_released :
    ¬ ∀ (s : State Key) (now : Int64) (ix : Instruction Key) (s' : State Key)
      (event : Option (IronVaultEvent Key)), process s now ix = .ok (s', event) →
      ix.movesTokens = true → ∃ x, ix.transfer s = some x ∧ TwoAccountEffect s x s' := by
  intro h
  have hunchanged : (process emptied 99 releaseEscrow).toOption.map
      (·.1.token (.escrowToken (.escrow authority 7)))
        = some (emptied.token (.escrowToken (.escrow authority 7))) := by decide +kernel
  cases hprocess : process emptied 99 releaseEscrow with
  | error e => simp [hprocess, Except.toOption] at hunchanged
  | ok result =>
    obtain ⟨x, hx, heffect⟩ := h emptied 99 releaseEscrow result.1 result.2 hprocess rfl
    have hsource : (releaseEscrow.transfer emptied).map Transfer.source
        = some (.escrowToken (.escrow authority 7)) := by decide +kernel
    rw [hx, Option.map_some, Option.some.injEq] at hsource
    apply heffect.source_changes
    rw [hsource]
    simpa [hprocess, Except.toOption] using hunchanged

end IronVault
