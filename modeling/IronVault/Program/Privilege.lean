import IronVault.Program.Lemmas.Authority
import IronVault.Program.Lemmas.Custody
import IronVault.Program.Lemmas.Window
import IronVault.Program.Symbolic

/-!
This module contains that nobody gains power over a vault without a signature of its authority.
-/

namespace IronVault

variable {Pubkey : Type} [DecidableEq Pubkey] [Solana Pubkey]

def State.Registered (s : State Pubkey) (v m key : Pubkey) : Prop :=
  ∃ asset, s.vaultAsset key = some asset ∧ asset.vault = v ∧ asset.mint = m

structure SamePrivileges (v : Pubkey) (vault : Vault Pubkey) (s s' : State Pubkey) : Prop where
  vault : ∃ vault', s'.vault v = some vault' ∧ vault'.authority = vault.authority ∧
    vault'.guardian = vault.guardian ∧ vault'.namespaceAuthority = vault.namespaceAuthority
  roles {key : Pubkey} {role : RoleAssignment Pubkey} (hvault : role.vault = v) :
    s'.roleAssignment key = some role ↔ s.roleAssignment key = some role
  assets (mint key : Pubkey) : s'.Registered v mint key ↔ s.Registered v mint key

/--
What an unsigned run from `s` leaves alone, with every transition of it.
-/
structure PrivilegesKept (v : Pubkey) (vault : Vault Pubkey) (s : State Pubkey)
    (tr : List (Transition (State Pubkey) (Action Pubkey))) (s' : State Pubkey) : Prop where
  same : SamePrivileges v vault s s'
  paused {t : Transition (State Pubkey) (Action Pubkey)} {before after : Vault Pubkey} :
    t ∈ tr → t.pre.vault v = some before → t.post.vault v = some after → before.paused = true →
      after.paused = true
  policies {t : Transition (State Pubkey) (Action Pubkey)} {key : Pubkey}
    {before after : VaultAsset Pubkey} :
    t ∈ tr → t.pre.vaultAsset key = some before → before.vault = v →
    t.post.vaultAsset key = some after → after.policy ≠ before.policy →
      ∃ ctx policy now, t.action = .instruction (.updateLimits ctx policy) now ∧ ctx.vault = v ∧
        ctx.vaultAsset = key ∧ s.HoldsRole v ctx.caller permissionManageLimits

section

variable {s s' : State Pubkey} {a : Action Pubkey} {v : Pubkey} {vault : Vault Pubkey}

theorem Step.vault_kept (hstep : Step s a s') (hvault : s.vault v = some vault)
    (hunsigned : ¬ AuthoritySigns v ⟨s, a, s'⟩) :
    ∃ vault', s'.vault v = some vault' ∧ vault'.authority = vault.authority ∧
      vault'.guardian = vault.guardian ∧ vault'.namespaceAuthority = vault.namespaceAuthority ∧
      (vault.paused = true → vault'.paused = true) := by
  cases hstep.vault_evolves hvault with
  | same hpost => exact ⟨vault, hpost, rfl, rfl, rfl, id⟩
  | rotated hkey h _ =>
    exact absurd ⟨_, _, vault, rfl, congrArg some hkey, hvault,
      congrArg some h.authority_eq.symm⟩ hunsigned
  | paused _ _ hpost => exact ⟨_, hpost, rfl, rfl, rfl, fun _ => rfl⟩
  | unpaused hkey h _ =>
    exact absurd ⟨_, _, vault, rfl, congrArg some hkey, hvault,
      congrArg some h.authority_eq.symm⟩ hunsigned
  | requested _ _ hpost => exact ⟨_, hpost, rfl, rfl, rfl, id⟩

theorem Step.registered_iff (hstep : Step s a s') (hunsigned : ¬ AuthoritySigns v ⟨s, a, s'⟩)
    (mint key : Pubkey) : s'.Registered v mint key ↔ s.Registered v mint key := by
  constructor
  . rintro ⟨asset, hasset, rfl, rfl⟩
    have hkept {key : Pubkey} {asset : VaultAsset Pubkey} (h : s.vaultAsset key = some asset) :
        s.Registered asset.vault asset.mint key :=
      ⟨asset, h, rfl, rfl⟩
    cases hstep.assetChange with
    | same h =>
      rw [h] at hasset
      exact hkept hasset
    | register h =>
      rw [h.post_eq, Function.update_some_eq_some] at hasset
      rcases hasset with ⟨-, rfl⟩ | ⟨-, hasset⟩
      . exact absurd ⟨_, _, _, rfl, rfl, h.vault_eq, congrArg some h.authority_eq.symm⟩ hunsigned
      . exact hkept hasset
    | updateLimits h =>
      rw [h.post_eq] at hasset
      apply Function.forall_update_some hasset hkept
      have hregistered := hkept h.asset_eq
      exact hregistered
    | withdraw h =>
      rw [h.outflow.asset_post] at hasset
      apply Function.forall_update_some hasset hkept
      have hregistered := hkept h.outflow.asset_eq
      exact hregistered
    | execute h =>
      rw [h.outflow.asset_post] at hasset
      apply Function.forall_update_some hasset hkept
      have hregistered := hkept h.outflow.asset_eq
      exact hregistered
  . rintro ⟨asset, hasset, rfl, rfl⟩
    exact hstep.vaultAsset_some hasset

theorem Step.samePrivileges (hs : Reachable s) (hstep : Step s a s')
    (hvault : s.vault v = some vault) (hunsigned : ¬ AuthoritySigns v ⟨s, a, s'⟩) :
    SamePrivileges v vault s s' := by
  obtain ⟨vault', hvault', hauthority, hguardian, hnamespace, -⟩ := hstep.vault_kept hvault hunsigned
  refine ⟨⟨vault', hvault', hauthority, hguardian, hnamespace⟩, ?_, hstep.registered_iff hunsigned⟩
  intro key role hrole
  rw [← hrole] at hunsigned
  constructor
  . intro h
    exact hstep.role_origin h hunsigned
  . intro h
    exact hstep.role_kept hs h hunsigned

omit [DecidableEq Pubkey] [Solana Pubkey] in
theorem SamePrivileges.trans {s'' : State Pubkey} {vault' : Vault Pubkey}
    (h : SamePrivileges v vault s s') (hvault' : s'.vault v = some vault')
    (h' : SamePrivileges v vault' s' s'') : SamePrivileges v vault s s'' := by
  obtain ⟨⟨_, heq, hauthority, hguardian, hnamespace⟩, hroles, hassets⟩ := h
  obtain ⟨⟨vault'', hvault'', hauthority', hguardian', hnamespace'⟩, hroles', hassets'⟩ := h'
  rw [hvault', Option.some.injEq] at heq
  subst heq
  refine ⟨⟨vault'', hvault'', hauthority'.trans hauthority, hguardian'.trans hguardian,
    hnamespace'.trans hnamespace⟩, ?_, ?_⟩
  . intro key role hrole
    exact (hroles' hrole).trans (hroles hrole)
  . intro mint key
    exact (hassets' mint key).trans (hassets mint key)

theorem SamePrivileges.holdsRole (h : SamePrivileges v vault s s') {caller : Pubkey}
    {permission : UInt64} (hrole : s'.HoldsRole v caller permission) :
    s.HoldsRole v caller permission := by
  obtain ⟨role, hrole, hvault, hprincipal, hhas⟩ := hrole
  exact ⟨role, (h.roles hvault).mp hrole, hvault, hprincipal, hhas⟩

theorem Step.policy_change (hstep : Step s a s') (hunsigned : ¬ AuthoritySigns v ⟨s, a, s'⟩)
    {key : Pubkey} {before after : VaultAsset Pubkey} (hbefore : s.vaultAsset key = some before)
    (hvault : before.vault = v) (hafter : s'.vaultAsset key = some after)
    (hne : after.policy ≠ before.policy) :
    ∃ ctx policy now, a = .instruction (.updateLimits ctx policy) now ∧ ctx.vault = v ∧
      ctx.vaultAsset = key ∧ s.HoldsRole v ctx.caller permissionManageLimits := by
  cases hstep.asset_evolves hbefore with
  | idle _ hpost =>
    rw [hafter, Option.some.injEq] at hpost
    exact absurd (by rw [hpost]) hne
  | charged _ _ hpost =>
    rw [hafter, Option.some.injEq] at hpost
    exact absurd (by rw [hpost]; rfl) hne
  | @updated ctx policy now _ _ vault _ hkey h _ =>
    have hctx : ctx.vault = v := by rw [← h.asset_vault, hvault]
    refine ⟨ctx, policy, now, rfl, hctx, hkey, ?_⟩
    rcases h.authorized with hcaller | hrole
    . refine absurd ⟨_, _, vault, rfl, congrArg some hctx, ?_, congrArg some hcaller⟩ hunsigned
      rw [← hctx]
      exact h.vault_eq
    . rw [← hctx]
      exact hrole

end

theorem no_privilege_growth {s s' : State Pubkey} {v : Pubkey} {vault : Vault Pubkey}
    {tr : List (Transition (State Pubkey) (Action Pubkey))} (hs : Reachable s)
    (hvault : s.vault v = some vault) (run : Run Step s tr s')
    (hunsigned : ∀ t ∈ tr, ¬ AuthoritySigns v t) : PrivilegesKept v vault s tr s' := by
  induction run with
  | nil => exact ⟨⟨⟨vault, hvault, rfl, rfl, rfl⟩, fun _ => Iff.rfl, fun _ _ => Iff.rfl⟩, by simp, by simp⟩
  | @snoc tr t u a run hstep ih =>
    obtain ⟨hsame, hpaused, hpolicies⟩ := ih fun x hx => hunsigned x (List.mem_append_left _ hx)
    have hlast : ¬ AuthoritySigns v ⟨t, a, u⟩ := hunsigned _ (by simp)
    have ht : Reachable t := hs.run run
    obtain ⟨vault', hvault', -⟩ := hsame.vault
    refine ⟨hsame.trans hvault' (hstep.samePrivileges ht hvault' hlast), ?_, ?_⟩
    . intro x before after hx hbefore hafter hpre
      cases List.mem_append.mp hx with
      | inl hx => exact hpaused hx hbefore hafter hpre
      | inr hx =>
        rw [List.mem_singleton] at hx
        subst hx
        obtain ⟨_, hpost, -, -, -, hkept⟩ := hstep.vault_kept hbefore hlast
        dsimp only at hafter
        rw [hafter, Option.some.injEq] at hpost
        rw [hpost]
        exact hkept hpre
    . intro x key before after hx hbefore hasset hafter hne
      cases List.mem_append.mp hx with
      | inl hx => exact hpolicies hx hbefore hasset hafter hne
      | inr hx =>
        rw [List.mem_singleton] at hx
        subst hx
        obtain ⟨ctx, policy, now, haction, hctx, hkey, hrole⟩ :=
          hstep.policy_change hlast hbefore hasset hafter hne
        exact ⟨ctx, policy, now, haction, hctx, hkey, hsame.holdsRole hrole⟩

namespace Scenario

def managed : List (Instruction Key × Int64) :=
  setup ++ [(.grantRole ⟨authority, .protocol, vault, .role vault recipient⟩ recipient
    permissionManageLimits, 4)]

def unsigned : List (Instruction Key × Int64) := [
  (.updateLimits ⟨recipient, .protocol, vault, mint, vaultAsset, [.role vault recipient]⟩ policy, 5),
  (.pauseVault ⟨guardian, vault⟩, 6)
]

end Scenario

open Scenario in
theorem no_privilege_growth_unsigned :
    PrivilegesKept vault createdVault (start.final managed) ((start.final managed).replay unsigned)
      ((start.final managed).final unsigned) := by
  apply no_privilege_growth
  . exact ⟨_, history_trace managed (by decide +kernel)⟩
  . decide +kernel
  . exact State.run_replay (by decide +kernel)
  . decide +kernel

end IronVault
