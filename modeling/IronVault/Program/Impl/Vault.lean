import IronVault.Program.Impl.Accounts

/-!
This module contains the instructions that change a vault or its roles: `create_vault`,
`set_vault_authority`, `pause_vault`, `unpause_vault`, `grant_role` and `revoke_role`.
-/

namespace IronVault

variable {Pubkey : Type} [DecidableEq Pubkey] [Solana Pubkey]

open Solana

structure CreateVault (Pubkey : Type) where
  authority : Pubkey
  protocolConfig : Pubkey
  vault : Pubkey

def CreateVault.createVaultAccount (ctx : CreateVault Pubkey) (s : State Pubkey) (vaultId : UInt64)
    (guardian : Pubkey) : Except Error (State Pubkey × IronVaultEvent Pubkey) := do
  let config ← s.loadProtocolConfig ctx.protocolConfig
  let bump ← s.init ctx.vault (.vault ctx.authority vaultId)
  requireProtocolActive config pauseVaultConfig
  require (guardian ≠ defaultKey ∧ guardian ≠ ctx.authority) IronVaultError.invalidVaultGuardian
  let vault : Vault Pubkey := {
    namespaceAuthority := ctx.authority
    authority := ctx.authority
    guardian
    vaultId
    nextWithdrawalId := 0
    paused := false
    bump
    reserved := .replicate 46 0
  }
  return (
    { s with vault := Function.update s.vault ctx.vault (some vault) },
    .vaultCreated {
      version := initialSchemaVersion
      vault := ctx.vault
      namespaceAuthority := ctx.authority
      authority := ctx.authority
      guardian
      vaultId
    }
  )

structure SetVaultAuthority (Pubkey : Type) where
  currentAuthority : Pubkey
  protocolConfig : Pubkey
  vault : Pubkey

def SetVaultAuthority.setAuthority (ctx : SetVaultAuthority Pubkey) (s : State Pubkey)
    (newAuthority : Pubkey) : Except Error (State Pubkey × IronVaultEvent Pubkey) := do
  let config ← s.loadProtocolConfig ctx.protocolConfig
  let vault ← s.loadVault ctx.vault
  require (vault.authority = ctx.currentAuthority) IronVaultError.invalidVaultAuthority
  requireProtocolActive config pauseVaultConfig
  require (newAuthority ≠ defaultKey ∧ newAuthority ≠ vault.authority ∧
    newAuthority ≠ vault.guardian) IronVaultError.invalidNewVaultAuthority
  return (
    { s with
      vault := Function.update s.vault ctx.vault (some { vault with authority := newAuthority }) },
    .vaultAuthorityUpdated {
      version := initialSchemaVersion
      vault := ctx.vault
      previousAuthority := vault.authority
      newAuthority
    }
  )

structure PauseVault (Pubkey : Type) where
  caller : Pubkey
  vault : Pubkey

def PauseVault.pause (ctx : PauseVault Pubkey) (s : State Pubkey) :
    Except Error (State Pubkey × IronVaultEvent Pubkey) := do
  let vault ← s.loadVault ctx.vault
  require (ctx.caller = vault.authority ∨ ctx.caller = vault.guardian)
    IronVaultError.unauthorizedVaultPause
  require (!vault.paused) IronVaultError.vaultPauseUnchanged
  return (
    { s with vault := Function.update s.vault ctx.vault (some { vault with paused := true }) },
    .vaultPauseUpdated {
      version := initialSchemaVersion
      vault := ctx.vault
      caller := ctx.caller
      paused := true
    }
  )

structure UnpauseVault (Pubkey : Type) where
  authority : Pubkey
  vault : Pubkey

def UnpauseVault.unpause (ctx : UnpauseVault Pubkey) (s : State Pubkey) :
    Except Error (State Pubkey × IronVaultEvent Pubkey) := do
  let vault ← s.loadVault ctx.vault
  require (vault.authority = ctx.authority) IronVaultError.unauthorizedVaultUnpause
  require vault.paused IronVaultError.vaultPauseUnchanged
  return (
    { s with vault := Function.update s.vault ctx.vault (some { vault with paused := false }) },
    .vaultPauseUpdated {
      version := initialSchemaVersion
      vault := ctx.vault
      caller := ctx.authority
      paused := false
    }
  )

structure GrantRole (Pubkey : Type) where
  authority : Pubkey
  protocolConfig : Pubkey
  vault : Pubkey
  roleAssignment : Pubkey

def GrantRole.grant (ctx : GrantRole Pubkey) (s : State Pubkey) (principal : Pubkey)
    (permissions : UInt64) : Except Error (State Pubkey × IronVaultEvent Pubkey) := do
  let config ← s.loadProtocolConfig ctx.protocolConfig
  let vault ← s.loadVault ctx.vault
  require (vault.authority = ctx.authority) IronVaultError.invalidVaultAuthority
  -- `init_if_needed`: a role assignment that is already there is kept and overwritten below
  checkCanonical ctx.roleAssignment (.role ctx.vault principal)
  require (s.unallocated ctx.roleAssignment ∨ (s.roleAssignment ctx.roleAssignment).isSome)
    AnchorError.accountAlreadyInUse
  requireProtocolActive config pauseVaultConfig
  require (principal ≠ defaultKey ∧ principal ≠ vault.authority ∧ principal ≠ vault.guardian)
    IronVaultError.invalidRolePrincipal
  require (permissions ≠ 0 ∧ permissions &&& ~~~knownPermissions = 0)
    IronVaultError.invalidPermissionMask
  let role : RoleAssignment Pubkey := {
    vault := ctx.vault
    principal
    permissions
    active := true
    bump := (findProgramAddress (.role ctx.vault principal)).2
    reserved := .replicate 54 0
  }
  return (
    { s with roleAssignment := Function.update s.roleAssignment ctx.roleAssignment (some role) },
    .roleGranted {
      version := initialSchemaVersion
      vault := ctx.vault
      principal
      permissions
    }
  )

structure RevokeRole (Pubkey : Type) where
  authority : Pubkey
  protocolConfig : Pubkey
  vault : Pubkey
  roleAssignment : Pubkey

def RevokeRole.revoke (ctx : RevokeRole Pubkey) (s : State Pubkey) (principal : Pubkey) :
    Except Error (State Pubkey × IronVaultEvent Pubkey) := do
  let config ← s.loadProtocolConfig ctx.protocolConfig
  let vault ← s.loadVault ctx.vault
  require (vault.authority = ctx.authority) IronVaultError.invalidVaultAuthority
  let role ← fetch (s.roleAssignment ctx.roleAssignment) AnchorError.accountNotInitialized
  checkSeeds ctx.roleAssignment (.role ctx.vault principal) role.bump
  require (role.vault = ctx.vault) AnchorError.constraintHasOne
  require (role.principal = principal) AnchorError.constraintRaw
  requireProtocolActive config pauseVaultConfig
  require role.active IronVaultError.roleNotActive
  return (
    { s with
      roleAssignment := Function.update s.roleAssignment ctx.roleAssignment
        (some { role with permissions := 0, active := false }) },
    .roleRevoked {
      version := initialSchemaVersion
      vault := role.vault
      principal := role.principal
      previousPermissions := role.permissions
    }
  )

end IronVault
