import IronVault.Program.Lemmas.Step

/-!
This module contains what holds of every account in a reachable state: it sits at the address that
its own fields derive, under the bump it stores, and keeps what was checked when it was written.
-/

namespace IronVault

variable {Pubkey : Type} [DecidableEq Pubkey] [Solana Pubkey]

open Solana

def Canonical (key : Pubkey) (seeds : Seeds Pubkey) (bump : UInt8) : Prop :=
  findProgramAddress seeds = (key, bump)

namespace Canonical

variable {key : Pubkey} {seeds : Seeds Pubkey} {bump : UInt8}

theorem of_init (h : key = address seeds) : Canonical key seeds (findProgramAddress seeds).2 := by
  rw [h]
  rfl

theorem key_eq (h : Canonical key seeds bump) : key = address seeds := by
  rw [address, h]

theorem create_eq (h : Canonical key seeds bump) : createProgramAddress seeds bump = some key := by
  have := createProgramAddress_find seeds
  rwa [h] at this

theorem isProgramAddress (h : Canonical key seeds bump) : IsProgramAddress key :=
  ⟨seeds, bump, h.create_eq⟩

end Canonical

theorem Reachable.step {s s' : State Pubkey} {a : Action Pubkey} (h : Reachable s)
    (hstep : Step s a s') : Reachable s' := by
  obtain ⟨tr, h⟩ := h
  exact ⟨_, .snoc h hstep⟩

theorem Reachable.run {s s' : State Pubkey} {tr : List (Transition (State Pubkey) (Action Pubkey))}
    (h : Reachable s) (run : Run Step s tr s') : Reachable s' := by
  obtain ⟨tr₀, h₀⟩ := h
  exact ⟨tr₀ ++ tr, h₀.trans run⟩

@[elab_as_elim]
theorem Reachable.induction {motive : (s : State Pubkey) → Reachable s → Prop}
    (empty : motive State.empty ⟨[], .nil⟩)
    (step : ∀ s a s' (h : Reachable s) (hstep : Step s a s'), motive s h →
      motive s' (h.step hstep)) {s : State Pubkey} (h : Reachable s) : motive s h := by
  obtain ⟨tr, h⟩ := h
  suffices ∃ hreach, motive s hreach from this.2
  induction h with
  | nil => exact ⟨_, empty⟩
  | snoc _ hstep ih =>
    obtain ⟨hreach, hs⟩ := ih
    exact ⟨_, step _ _ _ hreach hstep hs⟩

theorem Reachable.protocolConfig {s : State Pubkey} (h : Reachable s) {key : Pubkey}
    {config : ProtocolConfig Pubkey} (hconfig : s.protocolConfig key = some config) :
    Canonical key .protocol config.bump := by
  induction h using Reachable.induction generalizing key config with
  | empty => simp [State.empty] at hconfig
  | step s a s' hreach hstep ih =>
    cases hstep.configChange with
    | same h =>
      rw [h] at hconfig
      exact ih hconfig
    | initialized h =>
      rw [h.post_eq] at hconfig
      apply Function.forall_update_some hconfig ih
      exact .of_init h.key_eq
    | setPause h =>
      rw [h.post_eq] at hconfig
      apply Function.forall_update_some hconfig ih
      have hcanonical := ih h.config_eq
      exact hcanonical

structure Escrow.WellFormed (escrow : Escrow Pubkey) (key : Pubkey) : Prop where
  canonical : Canonical key (.escrow escrow.maker escrow.escrowId) escrow.bump
  amount_pos : 0 < escrow.amount

theorem Reachable.escrow {s : State Pubkey} (h : Reachable s) {key : Pubkey} {escrow : Escrow Pubkey}
    (hescrow : s.escrow key = some escrow) : escrow.WellFormed key := by
  induction h using Reachable.induction generalizing key escrow with
  | empty => simp [State.empty] at hescrow
  | step s a s' hreach hstep ih =>
    cases hstep.escrowChange with
    | same h =>
      rw [h] at hescrow
      exact ih hescrow
    | create h =>
      rw [h.post_eq] at hescrow
      apply Function.forall_update_some hescrow ih
      exact ⟨.of_init h.key_eq, h.amount_pos⟩
    | release h =>
      rw [h.settled.post_eq] at hescrow
      apply Function.forall_update_some hescrow ih
      obtain ⟨hcanonical, hpos⟩ := ih h.settled.escrow_eq
      exact ⟨hcanonical, hpos⟩
    | refund h =>
      rw [h.settled.post_eq] at hescrow
      apply Function.forall_update_some hescrow ih
      obtain ⟨hcanonical, hpos⟩ := ih h.settled.escrow_eq
      exact ⟨hcanonical, hpos⟩

structure Vault.WellFormed (vault : Vault Pubkey) (key : Pubkey) : Prop where
  canonical : Canonical key (.vault vault.namespaceAuthority vault.vaultId) vault.bump
  guardian_ne : vault.guardian ≠ vault.authority

theorem Reachable.vault {s : State Pubkey} (h : Reachable s) {key : Pubkey} {vault : Vault Pubkey}
    (hvault : s.vault key = some vault) : vault.WellFormed key := by
  induction h using Reachable.induction generalizing key vault with
  | empty => simp [State.empty] at hvault
  | step s a s' hreach hstep ih =>
    cases hstep.vaultChange with
    | same h =>
      rw [h] at hvault
      exact ih hvault
    | create h =>
      rw [h.post_eq] at hvault
      apply Function.forall_update_some hvault ih
      exact ⟨.of_init h.key_eq, h.guardian_ne.2⟩
    | setAuthority h =>
      rw [h.post_eq] at hvault
      apply Function.forall_update_some hvault ih
      exact ⟨(ih h.vault_eq).canonical, h.newAuthority_ne.2.2.symm⟩
    | pause h =>
      rw [h.post_eq] at hvault
      apply Function.forall_update_some hvault ih
      obtain ⟨hcanonical, hne⟩ := ih h.vault_eq
      exact ⟨hcanonical, hne⟩
    | unpause h =>
      rw [h.post_eq] at hvault
      apply Function.forall_update_some hvault ih
      obtain ⟨hcanonical, hne⟩ := ih h.vault_eq
      exact ⟨hcanonical, hne⟩
    | request h =>
      rw [h.post_eq] at hvault
      apply Function.forall_update_some hvault ih
      obtain ⟨hcanonical, hne⟩ := ih h.vault_eq
      exact ⟨hcanonical, hne⟩

theorem Reachable.roleAssignment {s : State Pubkey} (h : Reachable s) {key : Pubkey}
    {role : RoleAssignment Pubkey} (hrole : s.roleAssignment key = some role) :
    Canonical key (.role role.vault role.principal) role.bump := by
  induction h using Reachable.induction generalizing key role with
  | empty => simp [State.empty] at hrole
  | step s a s' hreach hstep ih =>
    cases hstep.roleChange with
    | same h =>
      rw [h] at hrole
      exact ih hrole
    | grant h =>
      rw [h.post_eq] at hrole
      apply Function.forall_update_some hrole ih
      exact .of_init h.key_eq
    | revoke h =>
      rw [h.post_eq] at hrole
      apply Function.forall_update_some hrole ih
      have hcanonical := ih h.role_eq
      exact hcanonical

structure VaultAsset.WellFormed (asset : VaultAsset Pubkey) (key : Pubkey) : Prop where
  canonical : Canonical key (.vaultAsset asset.vault asset.mint) asset.bump
  enabled : asset.enabled = true
  windowSeconds_nonneg : asset.windowSeconds = 0 ∨ 0 < asset.windowSeconds

theorem Reachable.vaultAsset {s : State Pubkey} (h : Reachable s) {key : Pubkey}
    {asset : VaultAsset Pubkey} (hasset : s.vaultAsset key = some asset) : asset.WellFormed key := by
  induction h using Reachable.induction generalizing key asset with
  | empty => simp [State.empty] at hasset
  | step s a s' hreach hstep ih =>
    cases hstep.assetChange with
    | same h =>
      rw [h] at hasset
      exact ih hasset
    | register h =>
      rw [h.post_eq] at hasset
      apply Function.forall_update_some hasset ih
      exact ⟨.of_init h.key_eq, rfl, .inl rfl⟩
    | updateLimits h =>
      rw [h.post_eq] at hasset
      apply Function.forall_update_some hasset ih
      obtain ⟨hcanonical, henabled, -⟩ := ih h.asset_eq
      exact ⟨hcanonical, henabled, .inr h.valid.2.2.1⟩
    | withdraw h =>
      rw [h.outflow.asset_post] at hasset
      apply Function.forall_update_some hasset ih
      obtain ⟨hcanonical, henabled, hseconds⟩ := ih h.outflow.asset_eq
      exact ⟨hcanonical, henabled, hseconds⟩
    | execute h =>
      rw [h.outflow.asset_post] at hasset
      apply Function.forall_update_some hasset ih
      obtain ⟨hcanonical, henabled, hseconds⟩ := ih h.outflow.asset_eq
      exact ⟨hcanonical, henabled, hseconds⟩

theorem Reachable.asset_key {s : State Pubkey} (h : Reachable s) {key v m : Pubkey}
    {asset : VaultAsset Pubkey} (hasset : s.vaultAsset key = some asset) (hvault : asset.vault = v)
    (hmint : asset.mint = m) : key = address (.vaultAsset v m) := by
  rw [← hvault, ← hmint]
  exact (h.vaultAsset hasset).canonical.key_eq

theorem Reachable.asset_fields {s : State Pubkey} (h : Reachable s) {v m : Pubkey}
    {asset : VaultAsset Pubkey} (hasset : s.vaultAsset (address (.vaultAsset v m)) = some asset) :
    asset.vault = v ∧ asset.mint = m := by
  have hkey := (h.vaultAsset hasset).canonical.key_eq
  rw [address_inj, Seeds.vaultAsset.injEq] at hkey
  exact ⟨hkey.1.symm, hkey.2.symm⟩

structure WithdrawalRequest.WellFormed (request : WithdrawalRequest Pubkey) (key : Pubkey) :
    Prop where
  canonical : Canonical key (.withdrawal request.vault request.withdrawalId) request.bump
  amount_pos : 0 < request.amount
  vaultAsset_eq : request.vaultAsset = address (.vaultAsset request.vault request.mint)

theorem Reachable.withdrawalRequest {s : State Pubkey} (h : Reachable s) {key : Pubkey}
    {request : WithdrawalRequest Pubkey} (hrequest : s.withdrawalRequest key = some request) :
    request.WellFormed key := by
  induction h using Reachable.induction generalizing key request with
  | empty => simp [State.empty] at hrequest
  | step s a s' hreach hstep ih =>
    cases hstep.requestChange with
    | same h =>
      rw [h] at hrequest
      exact ih hrequest
    | request h =>
      rw [h.post_eq] at hrequest
      apply Function.forall_update_some hrequest ih
      exact ⟨.of_init h.key_eq, h.amount_pos,
        hreach.asset_key h.asset_eq h.asset_vault h.asset_mint⟩
    | execute h =>
      rw [h.post_eq] at hrequest
      apply Function.forall_update_some hrequest ih
      obtain ⟨hcanonical, hpos, hasset⟩ := ih h.request_eq
      exact ⟨hcanonical, hpos, hasset⟩
    | cancel h =>
      rw [h.post_eq] at hrequest
      apply Function.forall_update_some hrequest ih
      obtain ⟨hcanonical, hpos, hasset⟩ := ih h.request_eq
      exact ⟨hcanonical, hpos, hasset⟩

end IronVault
