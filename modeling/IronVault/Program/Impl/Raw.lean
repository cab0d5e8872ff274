import IronVault.Program.Impl.Layout
import IronVault.Program.Impl.Accounts

/-!
This module contains the accounts as the runtime hands them over: an owner and some bytes. Anchor and
`validate_role_permission` make accounts of the program out of them.
-/

namespace IronVault

variable {Pubkey : Type} [DecidableEq Pubkey] [Solana Pubkey] [Borsh Pubkey]

namespace AccountType

def Data (Pubkey : Type) : AccountType → Type
  | .protocolConfig => ProtocolConfig Pubkey
  | .escrow => Escrow Pubkey
  | .vault => Vault Pubkey
  | .vaultAsset => VaultAsset Pubkey
  | .roleAssignment => RoleAssignment Pubkey
  | .withdrawalRequest => WithdrawalRequest Pubkey

instance (type : AccountType) : Borsh (type.Data Pubkey) :=
  match type with
  | .protocolConfig => inferInstanceAs (Borsh (ProtocolConfig Pubkey))
  | .escrow => inferInstanceAs (Borsh (Escrow Pubkey))
  | .vault => inferInstanceAs (Borsh (Vault Pubkey))
  | .vaultAsset => inferInstanceAs (Borsh (VaultAsset Pubkey))
  | .roleAssignment => inferInstanceAs (Borsh (RoleAssignment Pubkey))
  | .withdrawalRequest => inferInstanceAs (Borsh (WithdrawalRequest Pubkey))

/--
`SPACE`, the discriminator and `INIT_SPACE`.
-/
def space : AccountType → Nat
  | .protocolConfig => 8 + 132
  | .escrow => Escrow.space
  | .vault => Vault.space
  | .vaultAsset => 8 + 192
  | .roleAssignment => 8 + 128
  | .withdrawalRequest => 8 + 296

end AccountType

def State.lookup (s : State Pubkey) : (type : AccountType) → Pubkey → Option (type.Data Pubkey)
  | .protocolConfig => s.protocolConfig
  | .escrow => s.escrow
  | .vault => s.vault
  | .vaultAsset => s.vaultAsset
  | .roleAssignment => s.roleAssignment
  | .withdrawalRequest => s.withdrawalRequest

structure RawAccount (Pubkey : Type) where
  owner : Pubkey
  data : List UInt8

section

variable (sha256 : String → Vector UInt8 32) (programId : Pubkey)

def tryDeserialize (type : AccountType) (data : List UInt8) : Option (type.Data Pubkey) :=
  -- Whatever follows the fields is ignored.
  if data.take 8 = type.discriminator sha256 then
    (Borsh.deserialize (data.drop 8)).map Prod.fst
  else
    none

/--
`Account::try_from`
-/
def RawAccount.tryFrom (type : AccountType) (info : Option (RawAccount Pubkey)) :
    Option (type.Data Pubkey) := do
  let account ← info
  if account.owner = programId then
    tryDeserialize sha256 type account.data
  else
    none

def RawAccount.validateRolePermission (info : Option (RawAccount Pubkey))
    (roleInfo vault caller : Pubkey) (permission : UInt64) : Except Error Unit := do
  require (roleInfo = address (.role vault caller)) IronVaultError.missingVaultPermission
  -- An account that does not exist belongs to the system program.
  let account ← fetch info IronVaultError.missingVaultPermission
  require (account.owner = programId) IronVaultError.missingVaultPermission
  let role : RoleAssignment Pubkey ← fetch (tryDeserialize sha256 .roleAssignment account.data)
    IronVaultError.missingVaultPermission
  require (role.vault = vault) IronVaultError.missingVaultPermission
  require (role.principal = caller) IronVaultError.missingVaultPermission
  require (role.has permission) IronVaultError.missingVaultPermission

end

end IronVault
