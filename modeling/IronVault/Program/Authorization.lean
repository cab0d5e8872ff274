import IronVault.Program.Lemmas.Request
import IronVault.Program.Symbolic

/-!
This module contains who can move funds out of a vault. A custody balance falls in two ways only, and
both go back to an authority or a role holder of the vault at the moment of the decision.
-/

namespace IronVault

variable {Pubkey : Type} [DecidableEq Pubkey] [Solana Pubkey]

structure AuthorizedWithdraw (t : Transition (State Pubkey) (Action Pubkey)) (v m : Pubkey)
    (amount : UInt64) (ctx : Withdraw Pubkey) (vault : Vault Pubkey) (asset : VaultAsset Pubkey) :
    Prop where
  action_eq : ∃ now, t.action = .instruction (.withdraw ctx amount) now
  vault_key : ctx.vault = v
  vault_eq : t.pre.vault v = some vault
  asset_eq : t.pre.vaultAsset (address (.vaultAsset v m)) = some asset
  signer : ctx.caller = vault.authority ∨ t.pre.HoldsRole v ctx.caller permissionWithdraw
  le_max : amount ≤ asset.maxPerTransaction
  le_threshold : amount ≤ asset.timelockThreshold

structure AuthorizedRequest (t : Transition (State Pubkey) (Action Pubkey)) (key : Pubkey)
    (request : WithdrawalRequest Pubkey) (ctx : RequestWithdrawal Pubkey) (vault : Vault Pubkey) :
    Prop where
  action_eq : ∃ now, t.action = .instruction (.requestWithdrawal ctx request.amount) now
  vault_key : ctx.vault = request.vault
  pre_eq : t.pre.withdrawalRequest key = none
  post_eq : t.post.withdrawalRequest key = some request
  vault_eq : t.pre.vault request.vault = some vault
  signer : ctx.proposer = vault.authority ∨
    t.pre.HoldsRole request.vault ctx.proposer permissionRequestWithdrawal

structure ExecutedRequest (t : Transition (State Pubkey) (Action Pubkey)) (v m : Pubkey)
    (amount : UInt64) (ctx : ExecuteWithdrawal Pubkey) (request : WithdrawalRequest Pubkey) :
    Prop where
  action_eq : ∃ now, t.action = .instruction (.executeWithdrawal ctx) now
  request_eq : t.pre.withdrawalRequest ctx.withdrawalRequest = some request
  status_eq : request.status = .pending
  vault_eq : request.vault = v
  mint_eq : request.mint = m
  amount_eq : request.amount = amount
  paid : t.post.balance request.recipientTokenAccount
    = t.pre.balance request.recipientTokenAccount + amount.toNat

def State.OutflowOpen (s : State Pubkey) (v : Pubkey) : Prop :=
  (∃ vault, s.vault v = some vault ∧ vault.paused = false) ∧
    s.Active (address .protocol) pauseVaultOutflow

theorem Outflow.outflowOpen {s s' : State Pubkey}
    {config v m assetKey custody destination : Pubkey} {amount : UInt64} {now : Int64}
    {vault : Vault Pubkey} {asset : VaultAsset Pubkey} {next : Int64 × UInt64} (hs : Reachable s)
    (h : Outflow s config v m assetKey custody destination amount now s' vault asset next) :
    s.OutflowOpen v := by
  obtain ⟨c, hconfig, hactive⟩ := h.active
  have hkey := (hs.protocolConfig hconfig).key_eq
  exact ⟨⟨vault, h.vault_eq, h.paused_eq⟩, c, by rw [← hkey, hconfig], hactive⟩

theorem History.authorizedRequest {tr : List (Transition (State Pubkey) (Action Pubkey))}
    {s : State Pubkey} (h : History tr s) {key : Pubkey} {request : WithdrawalRequest Pubkey}
    (hrequest : s.withdrawalRequest key = some request) (hpending : request.status = .pending) :
    ∃ t ∈ tr, ∃ ctx vault, AuthorizedRequest t key request ctx vault := by
  obtain ⟨before, t, after, rfl, hpre, hpost⟩ := h.request_created hrequest
  obtain ⟨-, hstep, -⟩ := Run.of_cons_append h
  rw [← hpending] at hpost
  obtain ⟨ctx, now, event, vault, asset, token, next, haction, hkey, hvault, -, -, -, -, haccepted⟩ :=
    hstep.withdrawalRequest_of_none hpre hpost
  refine ⟨t, by simp, ctx, vault, ⟨now, haction⟩, hvault, hpre, hpost, ?_, ?_⟩
  . rw [← hvault]
    exact haccepted.vault_eq
  . rw [← hvault]
    exact haccepted.authorized

theorem vault_outflow_authorized {tr before after : List (Transition (State Pubkey) (Action Pubkey))}
    {t : Transition (State Pubkey) (Action Pubkey)} {s : State Pubkey} {v m : Pubkey}
    (h : History tr s) (htr : tr = before ++ t :: after)
    (hlt : t.post.balance (address (.vaultToken v m)) < t.pre.balance (address (.vaultToken v m))) :
    ∃ amount : UInt64, 0 < amount ∧
      t.pre.balance (address (.vaultToken v m))
        = t.post.balance (address (.vaultToken v m)) + amount.toNat ∧
      t.pre.OutflowOpen v ∧
      ((∃ ctx vault asset, AuthorizedWithdraw t v m amount ctx vault asset) ∨
        (∃ ctx request, ExecutedRequest t v m amount ctx request ∧
          ∃ t₀ ∈ before, ∃ ctx₀ vault₀,
            AuthorizedRequest t₀ ctx.withdrawalRequest request ctx₀ vault₀)) := by
  subst htr
  obtain ⟨hbefore, hstep, -⟩ := Run.of_cons_append h
  have hs : Reachable t.pre := ⟨before, hbefore⟩
  obtain ⟨ix, now, x, haction, htransfer, hsource, hamount, hout⟩ :=
    (hs.guarded_vaultToken v m).outflow_of_lt hs hstep hlt
  have hpos : 0 < x.amount := by
    rw [UInt64.lt_iff_toNat_lt, UInt64.toNat_zero]
    omega
  refine ⟨x.amount, hpos, hamount, ?_⟩
  cases hout with
  | release haccepted => simp [haccepted.settled.custody_eq] at hsource
  | refund haccepted => simp [haccepted.settled.custody_eq] at hsource
  | withdraw haccepted =>
    have hout := haccepted.outflow
    simp only [hout.custody_eq, address_inj, Seeds.vaultToken.injEq] at hsource
    obtain ⟨rfl, rfl⟩ := hsource
    refine ⟨hout.outflowOpen hs, .inl ⟨_, _, _, ⟨now, haction⟩, rfl, hout.vault_eq, ?_,
      haccepted.authorized, hout.le_max, haccepted.le_threshold⟩⟩
    rw [← hs.asset_key hout.asset_eq hout.asset_vault hout.asset_mint]
    exact hout.asset_eq
  | @execute ctx _ _ _ request _ haccepted =>
    simp only [haccepted.outflow.custody_eq, address_inj, Seeds.vaultToken.injEq] at hsource
    obtain ⟨rfl, rfl⟩ := hsource
    refine ⟨haccepted.outflow.outflowOpen hs, .inr ⟨ctx, request, ?_,
      History.authorizedRequest hbefore haccepted.request_eq haccepted.status_eq⟩⟩
    refine ⟨⟨now, haction⟩, haccepted.request_eq, haccepted.status_eq, haccepted.request_vault,
      haccepted.request_mint, rfl, ?_⟩
    rw [haction] at hstep
    have hledger := hstep.ledger hs
    have hbalance := hledger.balance_add request.recipientTokenAccount
    have hne := (hledger.moved htransfer).ne
    rw [← haccepted.recipient_eq] at hbalance ⊢
    simp only [Instruction.debit, Instruction.credit, htransfer, if_true, if_neg hne.symm]
      at hbalance
    exact hbalance

open Scenario in
theorem vault_outflow_authorized_execution :
    let t := next requested executeWithdrawal 16
    ∃ amount : UInt64, t.pre.balance vaultToken = t.post.balance vaultToken + amount.toNat ∧
      t.pre.OutflowOpen vault := by
  obtain ⟨amount, -, hamount, hopen, -⟩ := vault_outflow_authorized
    (h := history_executed)
    (v := vault) (m := mint) (trace_append requested [(executeWithdrawal, 16)]) (by decide +kernel)
  exact ⟨amount, hamount, hopen⟩

end IronVault
