import IronVault.Util.Borsh
import IronVault.Program.Basic

/-!
This module contains the bytes of the accounts that the program owns. Anchor writes the discriminator
of the account type, which is the beginning of a hash of its name, and then the fields in the order
of declaration.
-/

namespace IronVault

variable {Pubkey : Type} [Borsh Pubkey]

instance : Borsh EscrowStatus :=
  .enum
    (fun
      | .funded => 0
      | .released => 1
      | .refunded => 2)
    (fun byte =>
      if byte = 0 then some .funded
      else if byte = 1 then some .released
      else if byte = 2 then some .refunded
      else none)
    (fun status => by cases status <;> rfl)
    (fun byte status h => by
      split at h
      . next hbyte =>
        cases h
        exact hbyte
      . split at h
        . next hbyte =>
          cases h
          exact hbyte
        . split at h
          . next hbyte =>
            cases h
            exact hbyte
          . cases h)

instance : Borsh (Escrow Pubkey) :=
  .struct
    (fun escrow => (escrow.maker, escrow.recipient, escrow.mint, escrow.tokenProgram,
      escrow.escrowId, escrow.amount, escrow.createdAt, escrow.expiresAt, escrow.status, escrow.bump,
      escrow.reserved))
    (fun ⟨a, b, c, d, e, f, g, h, i, j, k⟩ => ⟨a, b, c, d, e, f, g, h, i, j, k⟩)
    (fun _ => rfl) (fun _ => rfl)

instance : Borsh (Vault Pubkey) :=
  .struct
    (fun vault => (vault.namespaceAuthority, vault.authority, vault.guardian, vault.vaultId,
      vault.nextWithdrawalId, vault.paused, vault.bump, vault.reserved))
    (fun ⟨a, b, c, d, e, f, g, h⟩ => ⟨a, b, c, d, e, f, g, h⟩)
    (fun _ => rfl) (fun _ => rfl)

instance : Borsh WithdrawalStatus :=
  .enum
    (fun
      | .pending => 0
      | .executed => 1
      | .cancelled => 2)
    (fun byte =>
      if byte = 0 then some .pending
      else if byte = 1 then some .executed
      else if byte = 2 then some .cancelled
      else none)
    (fun status => by cases status <;> rfl)
    (fun byte status h => by
      split at h
      . next hbyte =>
        cases h
        exact hbyte
      . split at h
        . next hbyte =>
          cases h
          exact hbyte
        . split at h
          . next hbyte =>
            cases h
            exact hbyte
          . cases h)

instance : Borsh (ProtocolConfig Pubkey) :=
  .struct
    (fun config => (config.version, config.admin, config.guardian, config.pauseFlags, config.bump,
      config.reserved))
    (fun ⟨a, b, c, d, e, f⟩ => ⟨a, b, c, d, e, f⟩)
    (fun _ => rfl) (fun _ => rfl)

instance : Borsh (VaultAsset Pubkey) :=
  .struct
    (fun asset => (asset.vault, asset.mint, asset.tokenProgram, asset.maxPerTransaction,
      asset.windowLimit, asset.windowSeconds, asset.windowStartedAt, asset.windowSpent,
      asset.timelockThreshold, asset.timelockSeconds, asset.requestExecutionWindowSeconds,
      asset.enabled, asset.bump, asset.reserved))
    (fun ⟨a, b, c, d, e, f, g, h, i, j, k, l, m, n⟩ => ⟨a, b, c, d, e, f, g, h, i, j, k, l, m, n⟩)
    (fun _ => rfl) (fun _ => rfl)

instance : Borsh (RoleAssignment Pubkey) :=
  .struct
    (fun role => (role.vault, role.principal, role.permissions, role.active, role.bump,
      role.reserved))
    (fun ⟨a, b, c, d, e, f⟩ => ⟨a, b, c, d, e, f⟩)
    (fun _ => rfl) (fun _ => rfl)

instance : Borsh (WithdrawalRequest Pubkey) :=
  .struct
    (fun request => (request.vault, request.vaultAsset, request.mint, request.tokenProgram,
      request.proposer, request.recipientOwner, request.recipientTokenAccount, request.withdrawalId,
      request.amount, request.createdAt, request.executeAfter, request.expiresAt, request.status,
      request.bump, request.reserved))
    (fun ⟨a, b, c, d, e, f, g, h, i, j, k, l, m, n, o⟩ =>
      ⟨a, b, c, d, e, f, g, h, i, j, k, l, m, n, o⟩)
    (fun _ => rfl) (fun _ => rfl)

inductive AccountType where
  | protocolConfig
  | escrow
  | vault
  | vaultAsset
  | roleAssignment
  | withdrawalRequest
  deriving DecidableEq, Repr

def AccountType.name : AccountType → String
  | .protocolConfig => "ProtocolConfig"
  | .escrow => "Escrow"
  | .vault => "Vault"
  | .vaultAsset => "VaultAsset"
  | .roleAssignment => "RoleAssignment"
  | .withdrawalRequest => "WithdrawalRequest"

def AccountType.discriminator (sha256 : String → Vector UInt8 32) (type : AccountType) :
    List UInt8 :=
  (sha256 ("account:" ++ type.name)).toList.take 8

def Escrow.space : Nat := 8 + 192

def Vault.space : Nat := 8 + 160

/--
The data of an account whose space is `space`: what Anchor writes, and zeros behind it.
-/
def accountData {α : Type} [Borsh α] (sha256 : String → Vector UInt8 32) (type : AccountType)
    (space : Nat) (value : α) : List UInt8 :=
  let bytes := type.discriminator sha256 ++ Borsh.serialize value
  bytes ++ List.replicate (space - bytes.length) 0

@[simp]
theorem AccountType.length_discriminator (sha256 : String → Vector UInt8 32) (type : AccountType) :
    (type.discriminator sha256).length = 8 := by
  simp [discriminator]

@[simp]
theorem length_serialize_status (status : EscrowStatus) : (Borsh.serialize status).length = 1 := rfl

theorem serialize_escrow (escrow : Escrow Pubkey) :
    Borsh.serialize escrow =
      Borsh.serialize escrow.maker ++ (Borsh.serialize escrow.recipient ++
        (Borsh.serialize escrow.mint ++ (Borsh.serialize escrow.tokenProgram ++
          (Borsh.serialize escrow.escrowId ++ (Borsh.serialize escrow.amount ++
            (Borsh.serialize escrow.createdAt ++ (Borsh.serialize escrow.expiresAt ++
              (Borsh.serialize escrow.status ++ (Borsh.serialize escrow.bump ++
                Borsh.serialize escrow.reserved))))))))) := rfl

theorem serialize_vault (vault : Vault Pubkey) :
    Borsh.serialize vault =
      Borsh.serialize vault.namespaceAuthority ++ (Borsh.serialize vault.authority ++
        (Borsh.serialize vault.guardian ++ (Borsh.serialize vault.vaultId ++
          (Borsh.serialize vault.nextWithdrawalId ++ (Borsh.serialize vault.paused ++
            (Borsh.serialize vault.bump ++ Borsh.serialize vault.reserved)))))) := rfl

end IronVault
