import IronVault.Program.Impl.Vault
import IronVault.Program.Lemmas.Accounts

namespace IronVault

variable {Pubkey : Type} [DecidableEq Pubkey] [Solana Pubkey]

open Solana

structure CreateVault.Accepted (ctx : CreateVault Pubkey) (s : State Pubkey) (vaultId : UInt64)
    (guardian : Pubkey) (s' : State Pubkey) (event : IronVaultEvent Pubkey) : Prop where
  active : s.Active ctx.protocolConfig pauseVaultConfig
  key_eq : ctx.vault = address (.vault ctx.authority vaultId)
  fresh : s.unallocated ctx.vault
  guardian_ne : guardian ≠ defaultKey ∧ guardian ≠ ctx.authority
  post_eq : s' = { s with
    vault := Function.update s.vault ctx.vault (some {
      namespaceAuthority := ctx.authority
      authority := ctx.authority
      guardian
      vaultId
      nextWithdrawalId := 0
      paused := false
      bump := (findProgramAddress (.vault ctx.authority vaultId)).2
      reserved := .replicate 46 0 }) }
  event_eq : event = .vaultCreated {
    version := initialSchemaVersion
    vault := ctx.vault
    namespaceAuthority := ctx.authority
    authority := ctx.authority
    guardian
    vaultId }

theorem CreateVault.createVaultAccount_ok {ctx : CreateVault Pubkey} {s s' : State Pubkey}
    {vaultId : UInt64} {guardian : Pubkey} {event : IronVaultEvent Pubkey}
    (h : ctx.createVaultAccount s vaultId guardian = .ok (s', event)) :
    ctx.Accepted s vaultId guardian s' event := by
  simp only [createVaultAccount, Except.bind_eq_ok_iff, State.loadProtocolConfig_eq_ok,
    State.init_eq_ok, requireProtocolActive_eq_ok, require_eq_ok, Except.pure_eq_ok_iff,
    Prod.mk.injEq, exists_const] at h
  obtain ⟨config, ⟨hconfig, -⟩, bump, ⟨hkey, hfresh, rfl⟩, hactive, hguardian, rfl, rfl⟩ := h
  exact ⟨⟨config, hconfig, hactive⟩, hkey, hfresh, hguardian, rfl, rfl⟩

structure SetVaultAuthority.Accepted (ctx : SetVaultAuthority Pubkey) (s : State Pubkey)
    (newAuthority : Pubkey) (s' : State Pubkey) (event : IronVaultEvent Pubkey)
    (vault : Vault Pubkey) : Prop where
  active : s.Active ctx.protocolConfig pauseVaultConfig
  vault_eq : s.vault ctx.vault = some vault
  authority_eq : vault.authority = ctx.currentAuthority
  newAuthority_ne : newAuthority ≠ defaultKey ∧ newAuthority ≠ vault.authority ∧
    newAuthority ≠ vault.guardian
  post_eq : s' = { s with
    vault := Function.update s.vault ctx.vault (some { vault with authority := newAuthority }) }
  event_eq : event = .vaultAuthorityUpdated {
    version := initialSchemaVersion
    vault := ctx.vault
    previousAuthority := vault.authority
    newAuthority }

theorem SetVaultAuthority.setAuthority_ok {ctx : SetVaultAuthority Pubkey} {s s' : State Pubkey}
    {newAuthority : Pubkey} {event : IronVaultEvent Pubkey}
    (h : ctx.setAuthority s newAuthority = .ok (s', event)) :
    ∃ vault, ctx.Accepted s newAuthority s' event vault := by
  simp only [setAuthority, Except.bind_eq_ok_iff, State.loadProtocolConfig_eq_ok,
    State.loadVault_eq_ok, requireProtocolActive_eq_ok, require_eq_ok, Except.pure_eq_ok_iff,
    Prod.mk.injEq, exists_const] at h
  obtain ⟨config, ⟨hconfig, -⟩, vault, ⟨hvault, -⟩, hauth, hactive, hnew, rfl, rfl⟩ := h
  exact ⟨vault, ⟨config, hconfig, hactive⟩, hvault, hauth, hnew, rfl, rfl⟩

structure PauseVault.Accepted (ctx : PauseVault Pubkey) (s s' : State Pubkey)
    (event : IronVaultEvent Pubkey) (vault : Vault Pubkey) : Prop where
  vault_eq : s.vault ctx.vault = some vault
  caller_eq : ctx.caller = vault.authority ∨ ctx.caller = vault.guardian
  paused_eq : vault.paused = false
  post_eq : s' = { s with
    vault := Function.update s.vault ctx.vault (some { vault with paused := true }) }
  event_eq : event = .vaultPauseUpdated {
    version := initialSchemaVersion
    vault := ctx.vault
    caller := ctx.caller
    paused := true }

theorem PauseVault.pause_ok {ctx : PauseVault Pubkey} {s s' : State Pubkey}
    {event : IronVaultEvent Pubkey} (h : ctx.pause s = .ok (s', event)) :
    ∃ vault, ctx.Accepted s s' event vault := by
  simp only [pause, Except.bind_eq_ok_iff, State.loadVault_eq_ok, require_eq_ok,
    Except.pure_eq_ok_iff, Prod.mk.injEq, exists_const, Bool.not_eq_true'] at h
  obtain ⟨vault, ⟨hvault, -⟩, hcaller, hpaused, rfl, rfl⟩ := h
  exact ⟨vault, hvault, hcaller, hpaused, rfl, rfl⟩

structure UnpauseVault.Accepted (ctx : UnpauseVault Pubkey) (s s' : State Pubkey)
    (event : IronVaultEvent Pubkey) (vault : Vault Pubkey) : Prop where
  vault_eq : s.vault ctx.vault = some vault
  authority_eq : vault.authority = ctx.authority
  paused_eq : vault.paused = true
  post_eq : s' = { s with
    vault := Function.update s.vault ctx.vault (some { vault with paused := false }) }
  event_eq : event = .vaultPauseUpdated {
    version := initialSchemaVersion
    vault := ctx.vault
    caller := ctx.authority
    paused := false }

theorem UnpauseVault.unpause_ok {ctx : UnpauseVault Pubkey} {s s' : State Pubkey}
    {event : IronVaultEvent Pubkey} (h : ctx.unpause s = .ok (s', event)) :
    ∃ vault, ctx.Accepted s s' event vault := by
  simp only [unpause, Except.bind_eq_ok_iff, State.loadVault_eq_ok, require_eq_ok,
    Except.pure_eq_ok_iff, Prod.mk.injEq, exists_const] at h
  obtain ⟨vault, ⟨hvault, -⟩, hauth, hpaused, rfl, rfl⟩ := h
  exact ⟨vault, hvault, hauth, hpaused, rfl, rfl⟩

structure GrantRole.Accepted (ctx : GrantRole Pubkey) (s : State Pubkey) (principal : Pubkey)
    (permissions : UInt64) (s' : State Pubkey) (event : IronVaultEvent Pubkey)
    (vault : Vault Pubkey) : Prop where
  active : s.Active ctx.protocolConfig pauseVaultConfig
  vault_eq : s.vault ctx.vault = some vault
  authority_eq : vault.authority = ctx.authority
  key_eq : ctx.roleAssignment = address (.role ctx.vault principal)
  principal_ne : principal ≠ defaultKey ∧ principal ≠ vault.authority ∧ principal ≠ vault.guardian
  permissions_known : permissions ≠ 0 ∧ permissions &&& ~~~knownPermissions = 0
  post_eq : s' = { s with
    roleAssignment := Function.update s.roleAssignment ctx.roleAssignment (some {
      vault := ctx.vault
      principal
      permissions
      active := true
      bump := (findProgramAddress (.role ctx.vault principal)).2
      reserved := .replicate 54 0 }) }
  event_eq : event = .roleGranted {
    version := initialSchemaVersion
    vault := ctx.vault
    principal
    permissions }

theorem GrantRole.grant_ok {ctx : GrantRole Pubkey} {s s' : State Pubkey} {principal : Pubkey}
    {permissions : UInt64} {event : IronVaultEvent Pubkey}
    (h : ctx.grant s principal permissions = .ok (s', event)) :
    ∃ vault, ctx.Accepted s principal permissions s' event vault := by
  simp only [grant, Except.bind_eq_ok_iff, State.loadProtocolConfig_eq_ok, State.loadVault_eq_ok,
    checkCanonical_eq_ok, requireProtocolActive_eq_ok, require_eq_ok, Except.pure_eq_ok_iff,
    Prod.mk.injEq, exists_const] at h
  obtain ⟨config, ⟨hconfig, -⟩, vault, ⟨hvault, -⟩, hauth, hkey, -, hactive, hprincipal, hperm, rfl,
    rfl⟩ := h
  exact ⟨vault, ⟨config, hconfig, hactive⟩, hvault, hauth, hkey, hprincipal, hperm, rfl, rfl⟩

structure RevokeRole.Accepted (ctx : RevokeRole Pubkey) (s : State Pubkey) (principal : Pubkey)
    (s' : State Pubkey) (event : IronVaultEvent Pubkey) (vault : Vault Pubkey)
    (role : RoleAssignment Pubkey) : Prop where
  active : s.Active ctx.protocolConfig pauseVaultConfig
  vault_eq : s.vault ctx.vault = some vault
  authority_eq : vault.authority = ctx.authority
  role_eq : s.roleAssignment ctx.roleAssignment = some role
  role_vault : role.vault = ctx.vault
  role_principal : role.principal = principal
  role_active : role.active = true
  post_eq : s' = { s with
    roleAssignment := Function.update s.roleAssignment ctx.roleAssignment
      (some { role with permissions := 0, active := false }) }
  event_eq : event = .roleRevoked {
    version := initialSchemaVersion
    vault := role.vault
    principal := role.principal
    previousPermissions := role.permissions }

theorem RevokeRole.revoke_ok {ctx : RevokeRole Pubkey} {s s' : State Pubkey} {principal : Pubkey}
    {event : IronVaultEvent Pubkey} (h : ctx.revoke s principal = .ok (s', event)) :
    ∃ vault role, ctx.Accepted s principal s' event vault role := by
  simp only [revoke, Except.bind_eq_ok_iff, State.loadProtocolConfig_eq_ok, State.loadVault_eq_ok,
    fetch_eq_ok, checkSeeds_eq_ok, requireProtocolActive_eq_ok, require_eq_ok,
    Except.pure_eq_ok_iff, Prod.mk.injEq, exists_const] at h
  obtain ⟨config, ⟨hconfig, -⟩, vault, ⟨hvault, -⟩, hauth, role, hrole, -, hroleVault, hprincipal,
    hactive, hroleActive, rfl, rfl⟩ := h
  exact ⟨vault, role, ⟨config, hconfig, hactive⟩, hvault, hauth, hrole, hroleVault, hprincipal,
    hroleActive, rfl, rfl⟩

end IronVault
